import Egrpc.ChannelReplies
import Egrpc.ChannelSecurity

/-!
# Every result comes from the call's own stream

The transport below a channel keeps the calls of its session apart, whatever it is
asked to do.  A result that is not a local failure is therefore decided by the DATA
and the status that nghttp2 delivered under the id it issued for that call's
request, on a connection whose peer was verified.
-/

namespace Egrpc

/-! ## The transport keeps the calls apart -/

namespace SessionIo

variable {Hook : Type}

theorem checkKeepalive_streams (platform : Platform) (now : Int) (io : SessionIo Hook) :
    (io.checkKeepalive platform now).2.session.streams = io.session.streams ∧
      (io.checkKeepalive platform now).2.env.issued = io.env.issued ∧
      io.env.calls <+: (io.checkKeepalive platform now).2.env.calls := by
  have calls : io.env.calls <+: (io.checkKeepalive platform now).2.env.calls := by
    rcases io.checkKeepalive_calls platform now with same | ⟨opaqueData, rc, said⟩
    · rw [same]
    · rw [said]
      exact List.prefix_append ..
  refine and_assoc.mp ⟨?_, calls⟩
  unfold checkKeepalive submitPing setError
  simp only
  split_ifs <;> exact ⟨rfl, rfl⟩

theorem wantWrite_streams (io : SessionIo Hook) :
    io.wantWrite.2.session.streams = io.session.streams ∧
      io.wantWrite.2.env.issued = io.env.issued ∧
      io.env.calls <+: io.wantWrite.2.env.calls := by
  unfold wantWrite
  split_ifs <;> exact ⟨rfl, rfl, List.prefix_rfl⟩

theorem receiveBytes_said (platform : Platform) (now : Int) (data : Bytes)
    (io : SessionIo Hook) :
    io.env.calls <+: (io.receiveBytes platform now data).2.2.env.calls := by
  by_cases live : io.session.session = true
  · rw [receiveBytes_calls platform now data live]
    exact List.prefix_append ..
  · unfold receiveBytes
    rw [if_pos (Bool.eq_false_of_not_eq_true live)]

theorem terminate_streams (io : SessionIo Hook) :
    io.terminate.session.streams = io.session.streams ∧
      io.terminate.env.issued = io.env.issued ∧ io.env.calls <+: io.terminate.env.calls := by
  unfold terminate
  split_ifs
  · exact ⟨rfl, rfl, List.prefix_rfl⟩
  · exact ⟨rfl, rfl, List.prefix_append ..⟩

theorem new_streams (platform : Platform) (options : Http2SessionOptions)
    (hooks : Http2Session.Hooks) (now : Int) (env : NgEnv) :
    (new platform options hooks now env : SessionIo Hook).session.streams = ∅ ∧
      (new platform options hooks now env : SessionIo Hook).env.issued = env.issued := by
  unfold new setError NgEnv.setupReturn
  simp only
  split_ifs <;> exact ⟨rfl, rfl⟩

end SessionIo

namespace Transport

variable {platform : Platform} {config : ChannelConfig} {tls : TlsEnv} {ng : NgEnv}
  {t t' : Transport}

/-- The replies of a transport belong to submitted requests and to ids that nghttp2
issued, and say where the state of each call comes from. -/
structure Replied (config : ChannelConfig) (t : Transport) : Prop where
  early : t.phase = .unused ∨ t.phase = .connecting → ∀ call, t.replies call = none
  told : ∀ call, Told config.options.maxReceiveMessageSize call (t.replies call)
    (t.table.calls call)
  answering : ∀ session, t.h2 = some session →
    Answering config.options.maxReceiveMessageSize session t.table t.replies
  posted : ∀ call reply, t.replies call = some reply →
    ∃ pc ∈ t.submitted, pc.call = call ∧ reply.body = pc.framedBody ∧
      .submitRequest (pc.requestHeaders config) pc.framedBody ∈ t.ng.calls
  issued : ∀ call reply, t.replies call = some reply → reply.streamId ∈ t.ng.issued
  carried : ∀ call reply, t.replies call = some reply →
    ∀ event ∈ reply.callbacks, event.streamId? = some reply.streamId
  distinct : ∀ call call' reply reply', t.replies call = some reply →
    t.replies call' = some reply' → reply.streamId = reply'.streamId → call = call'

theorem Replied.quiet (replied : t.Replied config)
    (phase : t'.phase = .unused ∨ t'.phase = .connecting →
      t.phase = .unused ∨ t.phase = .connecting)
    (table : t'.table.calls = t.table.calls) (replies : t'.replies = t.replies)
    (submitted : t'.submitted = t.submitted) (issued : t'.ng.issued = t.ng.issued)
    (calls : t.ng.calls <+: t'.ng.calls)
    (sessions : ∀ session', t'.h2 = some session' → ∃ session,
      t.h2 = some session ∧ session'.streams = session.streams) :
    t'.Replied config := by
  have told : ∀ call, Told config.options.maxReceiveMessageSize call (t.replies call)
      (t'.table.calls call) := table ▸ replied.told
  refine ⟨?_, ?_, ?_, ?_, ?_, ?_, ?_⟩
  · exact fun early => replies ▸ replied.early (phase early)
  · exact replies ▸ told
  · intro session' present'
    obtain ⟨session, present, streams⟩ := sessions session' present'
    rw [replies]
    exact ((replied.answering session present).same streams).retell told
  · intro call reply isReply
    rw [replies] at isReply
    rw [submitted]
    obtain ⟨pc, member, isCall, body, said⟩ := replied.posted call reply isReply
    exact ⟨pc, member, isCall, body, calls.subset said⟩
  · rw [replies, issued]
    exact replied.issued
  · rw [replies]
    exact replied.carried
  · rw [replies]
    exact replied.distinct

theorem Replied.onSession (replied : t.Replied config)
    {operation : SessionIo Nat → SessionIo Nat}
    (same : ∀ io, (operation io).session.streams = io.session.streams ∧
      (operation io).env.issued = io.env.issued ∧ io.env.calls <+: (operation io).env.calls) :
    (t.onSession operation).Replied config := by
  cases present : t.h2 with
  | none =>
      have unchanged : t.onSession operation = t := by
        simp only [Transport.onSession, present]
      rw [unchanged]
      exact replied
  | some session =>
      rw [onSession_of_some present]
      refine replied.quiet id rfl rfl rfl (same _).2.1 (same ⟨session, t.ng⟩).2.2 ?_
      intro session' present'
      cases present'
      exact ⟨session, present, (same _).1⟩

/-- After an operation of the session that kept the calls apart. -/
theorem Replied.listen (replied : t.Replied config)
    (here : ¬ (t.phase = .unused ∨ t.phase = .connecting))
    {before : SessionIo Nat} {done : List (HookCall Nat) × SessionIo Nat}
    (answering : Answering config.options.maxReceiveMessageSize done.2.session
      (t.table.hooks done.1) (Reply.hearAll (before.heard done.2) t.replies))
    (issued : done.2.env.issued = t.ng.issued) (calls : t.ng.calls <+: done.2.env.calls) :
    (t.listen before done).Replied config := by
  refine ⟨fun early => absurd early here, answering.told, ?_, ?_, ?_, ?_,
    answering.distinct⟩
  · intro session' present'
    cases present'
    exact answering
  · intro call reply isReply
    obtain ⟨old, isOld, rfl⟩ := Option.map_eq_some_iff.mp isReply
    obtain ⟨pc, member, isCall, body, said⟩ := replied.posted call old isOld
    exact ⟨pc, member, isCall, body, calls.subset said⟩
  · intro call reply isReply
    obtain ⟨old, isOld, rfl⟩ := Option.map_eq_some_iff.mp isReply
    change _ ∈ done.2.env.issued
    rw [issued]
    exact replied.issued call old isOld
  · intro call reply isReply event member
    obtain ⟨old, isOld, rfl⟩ := Option.map_eq_some_iff.mp isReply
    rcases List.mem_append.mp member with earlier | new
    · exact replied.carried call old isOld event earlier
    · exact of_decide_eq_true (List.mem_filter.mp new).2

theorem Replied.send (replied : t.Replied config)
    (here : t.phase = .serving ∨ t.phase = .parting) :
    (t.send platform).Replied config := by
  cases present : t.h2 with
  | none =>
      have same : t.send platform = t := by simp only [Transport.send, present]
      rw [same]
      exact replied
  | some session =>
      obtain ⟨answering, issued⟩ :=
        (replied.answering session present).pendingOutput platform t.ng
      have calls : t.ng.calls <+:
          (SessionIo.pendingOutput platform ⟨session, t.ng⟩).2.2.env.calls := by
        rw [(SessionIo.pendingOutput_frame platform ⟨session, t.ng⟩).1]
      have listened := replied.listen (not_early here) answering issued calls
      rcases send_cases platform present with nothing | ⟨data, _, ⟨-, blocked⟩ | written⟩
      · rw [nothing]
        exact listened
      · rw [blocked]
        exact listened.quiet id rfl rfl rfl rfl List.prefix_rfl fun session' present' =>
          ⟨session', present', rfl⟩
      · rw [written]
        refine listened.quiet id rfl rfl rfl rfl List.prefix_rfl ?_
        intro session' present'
        cases present'
        exact ⟨_, rfl, rfl⟩

theorem Replied.receive (replied : t.Replied config) (serving : t.phase = .serving)
    (now : Int) : (t.receive platform now).Replied config := by
  cases present : t.h2 with
  | none =>
      simp only [Transport.receive, Transport.feed, present, ite_self]
      refine replied.quiet id rfl rfl rfl rfl List.prefix_rfl ?_
      intro session impossible
      cases impossible
  | some session =>
      rcases receive_cases platform now present with ⟨_, fed⟩ | ⟨_, nothing⟩
      · obtain ⟨answering, issued⟩ := (replied.answering session present).receiveBytes
          platform now (TlsIo.read platform 16384 ⟨t.sock, t.tls⟩).1.2 t.ng
        have listened := replied.listen (not_early (.inl serving)) answering issued
          (SessionIo.receiveBytes_said platform now _ ⟨session, t.ng⟩)
        rw [fed]
        exact listened.quiet id rfl rfl rfl rfl List.prefix_rfl fun session' present' =>
          ⟨session', present', rfl⟩
      · rw [nothing]
        exact replied.quiet id rfl rfl rfl rfl List.prefix_rfl fun session' present' =>
          ⟨session', present', rfl⟩

theorem Replied.failCall (replied : t.Replied config) (message : Bytes) (call : Nat) :
    ({ t with table := t.table.deliver call (.failLocal .unavailable message) } :
      Transport).Replied config := by
  have told : ∀ other, Told config.options.maxReceiveMessageSize other (t.replies other)
      ((t.table.deliver call (.failLocal .unavailable message)).calls other) := by
    intro other
    change Told _ _ _ (Function.update t.table.calls call _ other)
    by_cases same : other = call
    · subst same
      rw [Function.update_self]
      exact (replied.told other).failLocal message
    · rw [Function.update_of_ne same]
      exact replied.told other
  exact ⟨replied.early, told,
    fun session present => (replied.answering session present).retell told,
    replied.posted, replied.issued, replied.carried, replied.distinct⟩

/-- A call that was not submitted has no reply. -/
theorem Replied.unanswered (replied : t.Replied config) {call : Nat}
    (notSubmitted : call ∉ t.submitted.map PendingCall.call) : t.replies call = none := by
  cases isReply : t.replies call with
  | none => rfl
  | some reply =>
      obtain ⟨pc, member, isCall, _⟩ := replied.posted call reply isReply
      exact absurd (List.mem_map.mpr ⟨pc, member, isCall⟩) notSubmitted

/-- One more submission leaves the requests behind the replies in place. -/
theorem Replied.posted_after (replied : t.Replied config) (pc : PendingCall)
    {calls : List NgCall} (said : t.ng.calls <+: calls) (call : Nat) (reply : Reply)
    (isReply : t.replies call = some reply) :
    ∃ other ∈ t.submitted ++ [pc], other.call = call ∧ reply.body = other.framedBody ∧
      .submitRequest (other.requestHeaders config) other.framedBody ∈ calls := by
  obtain ⟨other, member, isCall, body, asked⟩ := replied.posted call reply isReply
  exact ⟨other, List.mem_append_left _ member, isCall, body, said.subset asked⟩

theorem Replied.refuse (replied : t.Replied config) (pc : PendingCall) {reason : Bytes}
    {session : Http2Session Nat} (present : t.h2 = some session) {env : NgEnv}
    (issued : env.issued = t.ng.issued) (said : t.ng.calls <+: env.calls) :
    ({ t with
      h2 := some { session with error := reason }
      ng := env
      table := t.table.deliver pc.call (.failLocal .unavailable reason)
      submitted := t.submitted ++ [pc] } : Transport).Replied config := by
  have failed := replied.failCall reason pc.call
  refine ⟨failed.early, failed.told, ?_, replied.posted_after pc said,
    issued ▸ failed.issued, failed.carried, failed.distinct⟩
  intro session' present'
  cases present'
  exact (failed.answering session present).same rfl

theorem Replied.accept (replied : t.Replied config) (serving : t.phase = .serving)
    {pc : PendingCall} (notSubmitted : pc.call ∉ t.submitted.map PendingCall.call)
    {session : Http2Session Nat} (present : t.h2 = some session) {streamId : Int}
    (isNew : streamId ∉ t.ng.issued) {env : NgEnv}
    (issued : env.issued = t.ng.issued ++ [streamId])
    (said : env.calls = t.ng.calls ++
      [.submitRequest (pc.requestHeaders config) pc.framedBody]) :
    ({ t with
      h2 := some (session.register streamId
        { hooks := World.makeStreamHooks pc.call, body := pc.framedBody })
      ng := env
      table := (t.table.deliver pc.call (.stream (.submitted streamId))).activate pc.call
      submitted := t.submitted ++ [pc]
      replies := Function.update t.replies pc.call
        (some { streamId := streamId, body := pc.framedBody }) } :
      Transport).Replied config := by
  have fresh (other : Nat) (reply : Reply) (isReply : t.replies other = some reply) :
      reply.streamId ≠ streamId := by
    rintro rfl
    exact isNew (replied.issued other reply isReply)
  have registered := (replied.answering session present).register
    (replied.unanswered notSubmitted) fresh pc.framedBody
  -- A reply is the new one or an old one.
  have old {call : Nat} {reply : Reply} (isReply : Function.update t.replies pc.call
      (some { streamId := streamId, body := pc.framedBody }) call = some reply) :
      (call = pc.call ∧ reply = { streamId := streamId, body := pc.framedBody }) ∨
        t.replies call = some reply := by
    by_cases same : call = pc.call
    · subst same
      rw [Function.update_self] at isReply
      exact .inl ⟨rfl, (Option.some.inj isReply).symm⟩
    · rw [Function.update_of_ne same] at isReply
      exact .inr isReply
  refine ⟨fun early => absurd early (not_early (.inl serving)), registered.told,
    ?_, ?_, ?_, ?_, registered.distinct⟩
  · intro session' present'
    cases present'
    exact registered
  · intro call reply isReply
    rcases old isReply with ⟨rfl, rfl⟩ | earlier
    · exact ⟨pc, List.mem_append_right _ (List.mem_singleton_self pc), rfl, rfl,
        said ▸ List.mem_append_right _ (List.mem_singleton_self _)⟩
    · exact replied.posted_after pc (said ▸ List.prefix_append ..) call reply earlier
  · intro call reply isReply
    change _ ∈ env.issued
    rw [issued]
    rcases old isReply with ⟨rfl, rfl⟩ | earlier
    · exact List.mem_append_right _ (List.mem_singleton_self _)
    · exact List.mem_append_left _ (replied.issued call reply earlier)
  · intro call reply isReply
    rcases old isReply with ⟨rfl, rfl⟩ | earlier
    · simp
    · exact replied.carried call reply earlier

theorem Replied.submit (replied : t.Replied config) {pc : PendingCall}
    (admits : t.Admits (.submit pc)) : (t.submit platform config pc).Replied config := by
  cases present : t.h2 with
  | none =>
      have same : t.submit platform config pc = t := by simp only [Transport.submit, present]
      rw [same]
      exact replied
  | some session =>
      have calls := SessionIo.submitUnaryRequest_calls platform (pc.requestHeaders config)
        pc.framedBody (World.makeStreamHooks pc.call) ⟨session, t.ng⟩
      rcases SessionIo.submitUnaryRequest_eq platform (pc.requestHeaders config)
          pc.framedBody (World.makeStreamHooks pc.call) ⟨session, t.ng⟩ with
        ⟨reason, env, _, issued, _, result⟩ | ⟨streamId, env, accepted, isNew, issued, _, result⟩
      · have done : World.submitRequest platform config pc ⟨session, t.ng⟩ = _ := result
        have refused : (-1 : Int) < 0 := by decide
        rw [submit_refused present (by rw [done]; exact refused), done]
        refine replied.refuse pc present issued ?_
        rw [result] at calls
        rcases calls with ⟨_, same⟩ | more
        · exact same ▸ List.prefix_rfl
        · exact more ▸ List.prefix_append ..
      · have done : World.submitRequest platform config pc ⟨session, t.ng⟩ = _ := result
        rw [submit_accepted present (by rw [done]; exact Int.not_lt.mpr accepted), done]
        refine replied.accept admits.1 admits.2 present isNew issued ?_
        rw [result] at calls
        rcases calls with ⟨refused, _⟩ | more
        · have isRefused : streamId = -1 := refused
          omega
        · exact more

theorem Replied.step (replied : t.Replied config) {action : Transport.Move}
    (admits : t.Admits action) : (t.move platform config action).Replied config := by
  have here (session : Http2Session Nat) (present : t.h2 = some session) :
      ∃ session', t.h2 = some session' ∧ session.streams = session'.streams :=
    ⟨session, present, rfl⟩
  cases action with
  | startConnect => exact replied.quiet (fun _ => .inl admits) rfl rfl rfl rfl List.prefix_rfl here
  | continueConnect => exact replied.quiet id rfl rfl rfl rfl List.prefix_rfl here
  | openSession now =>
      have unanswered := replied.early (.inr admits.1)
      obtain ⟨streams, issued⟩ := @SessionIo.new_streams Nat platform config.options.http2
        { onGoaway := true } now t.ng
      refine ⟨fun _ => unanswered, replied.told, ?_, ?_, ?_, replied.carried,
        replied.distinct⟩
      · intro session present
        cases present
        refine ⟨replied.told, ?_, ?_, ?_⟩
        · intro call reply isReply
          cases (unanswered call).symm.trans isReply
        · intro streamId member
          rw [streams] at member
          exact absurd member (AList.notMem_empty streamId)
        · exact replied.distinct
      · intro call reply isReply
        cases (unanswered call).symm.trans isReply
      · intro call reply isReply
        cases (unanswered call).symm.trans isReply
  | submit pc => exact replied.submit admits
  | checkKeepalive now =>
      exact replied.onSession fun io => io.checkKeepalive_streams platform now
  | wantWrite => exact replied.onSession fun io => io.wantWrite_streams
  | send => exact replied.send admits
  | receive now => exact replied.receive admits now
  | terminate =>
      have kept := replied.onSession fun io => io.terminate_streams
      refine kept.quiet ?_ rfl rfl rfl rfl List.prefix_rfl
        fun session present => ⟨session, present, rfl⟩
      rintro (impossible | impossible) <;> cases impossible
  | close =>
      refine replied.quiet ?_ rfl rfl rfl rfl List.prefix_rfl ?_
      · rintro (impossible | impossible) <;> cases impossible
      · intro session impossible
        cases impossible
  | failCall message call => exact replied.failCall message call
  | release => exact replied.quiet id rfl rfl rfl rfl List.prefix_rfl here

theorem Reachable.replied (reachable : Reachable platform config tls ng t) :
    t.Replied config := by
  refine Runs.Reach.invariant (Replied config) ?_
    (fun _ _ holds => holds.step) reachable
  intro t fresh
  have unanswered (call : Nat) : t.replies call = none :=
    congrFun (congrArg Record.replies fresh.record) call
  refine ⟨fun _ => unanswered, ?_, ?_, ?_, ?_, ?_, ?_⟩
  · intro call
    rw [unanswered, fresh.calls]
    exact ⟨[], rfl, rfl, nofun⟩
  · intro session present
    cases fresh.h2.symm.trans present
  · intro call reply isReply
    cases (unanswered call).symm.trans isReply
  · intro call reply isReply
    cases (unanswered call).symm.trans isReply
  · intro call reply isReply
    cases (unanswered call).symm.trans isReply
  · intro call call' reply reply' isReply
    cases (unanswered call).symm.trans isReply

end Transport

/-! ## What decides a result -/

/-- A call that is done has handled stream events and one closing event. -/
theorem CallState.handleAll_done {call : CallState} {history : List CallEvent}
    (open' : call.state ≠ .closed) (consistent : call.done = true ↔ call.state = .closed)
    (done : (call.handleAll history).done = true) :
    ∃ events closing rest, history = events.map .stream ++ closing :: rest ∧
      closing.Closing ∧ call.handleAll history = (call.receiveAll events).handle closing := by
  induction history generalizing call with
  | nil => exact absurd (consistent.mp done) open'
  | cons event history ih =>
      by_cases closing : event.Closing
      · have closed := (handle_closing closing consistent).1
        exact ⟨[], event, history, rfl, closing, handleAll_of_closed closed history⟩
      · cases event with
        | close | failLocal => exact absurd trivial closing
        | stream event =>
            have stillOpen : (call.receive event).state ≠ .closed := fun closed =>
              open' ((receive_phase call event).2.2.mp closed)
            obtain ⟨events, closing, rest, split, closes, result⟩ :=
              ih stillOpen (handle_consistent consistent (.stream event)) done
            exact ⟨event :: events, closing, rest, by rw [split]; rfl, closes, result⟩

/-- An OK verdict rests on one intact message and a status that denotes zero. -/
theorem Received.ok {maxReceiveMessageSize : Nat} {events : List StreamEvent}
    {call : CallState} (received : Received maxReceiveMessageSize events call)
    {http2ErrorCode : Nat} (ok : (call.onClose http2ErrorCode).result.code = .ok) :
    IntactMessage maxReceiveMessageSize (dataBytes events)
        (call.onClose http2ErrorCode).result.response ∧
      ∃ status, lastStatus events = some status ∧ DenotesOk status := by
  rw [CallState.onClose_result received.notClosed] at ok ⊢
  obtain ⟨delivered, scanned⟩ := received.scanned
  cases failed : call.scanner.failed with
  | true =>
      obtain ⟨pre, _, code, _⟩ := scanned.poisoned failed
      have notOk : (call.finalizeLocked http2ErrorCode).result.code = pre.code := by
        simp [CallState.finalizeLocked, failed, CallState.setStatus, code]
      exact absurd (notOk.symm.trans ok) pre.code_ne_ok
  | false =>
      obtain ⟨clean, _, _⟩ := scanned.healthy failed
      obtain ⟨count, first, rest⟩ := received.drained failed
      obtain ⟨okIff, response, _⟩ := CallState.finalizeLocked_ok failed http2ErrorCode
      obtain ⟨status, complete, single⟩ := okIff.mp ok
      have whole : incompleteFrame (dataBytes events) = [] := by
        rw [← rest]
        by_contra some
        have partial' := call.scanner.hasPartialMessage_iff.mpr some
        rw [complete] at partial'
        cases partial'
      obtain ⟨payload, intact⟩ :=
        exists_intactMessage_iff.mpr ⟨clean, count ▸ single, whole⟩
      have isPayload : (call.finalizeLocked http2ErrorCode).result.response = payload := by
        rw [response ok, first, intact.parseFrames_eq]
        rfl
      exact ⟨isPayload ▸ intact, received.status ▸ status⟩

/-- A reply decides the result of its call: it is what the call alone makes of the
stream's events up to the closing, and OK only for a message that is the DATA
received, under a status that denotes zero. -/
def Reply.Decides (maxReceiveMessageSize call : Nat) (reply : Reply)
    (result : CallState.Result) : Prop :=
  ∃ told errorCode,
    told.map .stream ++ [.close errorCode] <+: reply.events call ∧
    result = (((CallState.new maxReceiveMessageSize).receiveAll told).onClose
      errorCode).result ∧
    (result.code = .ok →
      IntactMessage maxReceiveMessageSize reply.received result.response ∧
        ∃ status, lastStatus told = some status ∧ DenotesOk status)

namespace Told

variable {maxReceiveMessageSize call : Nat} {reply : Option Reply} {state : CallState}

/-- A result is a failure of the channel, or decided by the call's own reply. -/
theorem verdict (told : Told maxReceiveMessageSize call reply state)
    {result : CallState.Result} (waited : state.wait = some result) :
    (result.code = .unavailable ∧ result.response = []) ∨
      ∃ own, reply = some own ∧ own.Decides maxReceiveMessageSize call result := by
  obtain ⟨history, rfl, own, local'⟩ := told
  have done : ((CallState.new maxReceiveMessageSize).handleAll history).done = true ∧
      ((CallState.new maxReceiveMessageSize).handleAll history).result = result := by
    unfold CallState.wait at waited
    split_ifs at waited with done
    exact ⟨done, Option.some.inj waited⟩
  obtain ⟨events, closing, rest, split, closes, final⟩ := CallState.handleAll_done
    (by simp [CallState.new]) (by simp [CallState.new]) done.1
  have received := (Received.new maxReceiveMessageSize).receiveAll events
  rw [List.nil_append] at received
  rw [← done.2, final]
  cases closing with
  | stream event => exact closes.elim
  | failLocal code message =>
      left
      have unavailable : code = .unavailable := local' code message (by simp [split])
      simp only [CallState.handle, CallState.failLocal, if_neg received.notClosed]
      exact ⟨unavailable, received.response⟩
  | close errorCode =>
      right
      have first : (events.map CallEvent.stream).filter (!·.isLocal) =
          events.map CallEvent.stream := by
        simp [List.filter_map, Function.comp_def, CallEvent.isLocal]
      rw [split, List.filter_append, first, List.filter_cons_of_pos rfl] at own
      cases reply with
      | none => simp at own
      | some reply =>
          rw [Option.elim_some] at own
          have closed : events.map .stream ++ [.close errorCode] <+: reply.events call :=
            ⟨_, by rw [← own, List.append_assoc]; rfl⟩
          refine ⟨reply, rfl, events, errorCode, closed, rfl, ?_⟩
          intro ok
          obtain ⟨intact, status⟩ := received.ok ok
          exact ⟨Reply.dataBytes_events closed ▸ intact, status⟩

end Told

/-! ## The results of a channel -/

/-- Where the result of a call comes from: the channel failed it, or it was posted
and submitted, and the reply on its own stream decides the result, behind a handshake
with the verified peer. -/
def World.Answers (platform : Platform) (config : ChannelConfig)
    (record : Transport.Record) (w : World) (pc : PendingCall)
    (result : CallState.Result) : Prop :=
  ∃ reply, record.replies pc.call = some reply ∧ reply.body = pc.framedBody ∧
    .submitRequest (pc.requestHeaders config) pc.framedBody ∈ w.ng.calls ∧
    reply.streamId ∈ w.ng.issued ∧
    (∀ event ∈ reply.callbacks, event.streamId? = some reply.streamId) ∧
    (∃ handshake ∈ w.tls.calls, handshake.IsHandshake platform config) ∧
    reply.Decides config.options.maxReceiveMessageSize pc.call result

theorem World.Tracked.results {platform : Platform} {config : ChannelConfig} {tls : TlsEnv}
    {ng : NgEnv} {posted : List PendingCall} {w : World}
    (tracked : w.Tracked platform config (Transport.Fresh config tls ng) posted)
    (quiet : tls.calls = []) :
    ∃ record, Transport.Reachable platform config tls ng
        (w.transport w.state.phase record) ∧
      (∀ call, record.replies call ≠ none → call ∈ posted.map PendingCall.call) ∧
      (∀ call call' reply reply', record.replies call = some reply →
        record.replies call' = some reply' → reply.streamId = reply'.streamId →
          call = call') ∧
      ∀ call result, (w.calls call).wait = some result →
        (result.code = .unavailable ∧ result.response = []) ∨
        ∃ pc ∈ posted, pc.call = call ∧ w.Answers platform config record pc result := by
  obtain ⟨record, ⟨reach, _⟩, some, _⟩ := tracked.transport
  have reached : Transport.Reachable platform config tls ng
      (w.transport w.state.phase record) := reach
  have replied := reached.replied
  refine ⟨record, reached, fun call answered => ?_, replied.distinct,
    fun call result waited => ?_⟩
  · obtain ⟨reply, isReply⟩ := Option.ne_none_iff_exists'.mp answered
    obtain ⟨pc, submitted, isCall, _⟩ := replied.posted call reply isReply
    exact List.mem_map.mpr ⟨pc, some.subset submitted, isCall⟩
  rcases (replied.told call).verdict waited with unavailable | ⟨reply, isReply, decides⟩
  · exact .inl unavailable
  · right
    obtain ⟨pc, submitted, isCall, body, asked⟩ := replied.posted call reply isReply
    have handshake : ∃ handshake ∈ w.tls.calls, handshake.IsHandshake platform config := by
      rcases (reached.secured quiet).2.spoken with ⟨_, nothing⟩ | handshake
      · rw [nothing] at submitted
        cases submitted
      · exact handshake
    subst isCall
    exact ⟨pc, some.subset submitted, rfl, reply, isReply, body, asked,
      replied.issued pc.call reply isReply, replied.carried pc.call reply isReply, handshake,
      decides⟩

end Egrpc
