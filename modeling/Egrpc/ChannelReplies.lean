import Egrpc.CallStateLifecycle
import Egrpc.CallStateVerdict
import Egrpc.ChannelTransport

/-!
# The replies of a session

The streams of all calls share one session, one map and one set of nghttp2
callbacks.  This file follows each call from its request on.  Its reply is what
nghttp2 delivers under the id of its stream, and the state of the call is what that
reply and local failures make of it, however the callbacks of other streams fall in
between.
-/

namespace Egrpc

open Http2Session (Stream)

/-! ## A stream and its callbacks -/

namespace Http2Session

variable {Hook : Type}

/-- Callbacks with its id in order; nothing happens to a stream that is gone. -/
def Stream.follow (stream : Option (Stream Hook)) :
    List NgCallback → Option (Stream Hook) × List (HookCall Hook)
  | [] => (stream, [])
  | event :: events =>
      let first := stream.elim (none, []) (·.callback event)
      let rest := Stream.follow first.1 events
      (rest.1, first.2 ++ rest.2)

theorem Stream.follow_append (stream : Option (Stream Hook)) (before after : List NgCallback) :
    Stream.follow stream (before ++ after) =
      ((Stream.follow (Stream.follow stream before).1 after).1,
        (Stream.follow stream before).2 ++
          (Stream.follow (Stream.follow stream before).1 after).2) := by
  induction before generalizing stream with
  | nil => rfl
  | cons event before ih =>
      simp only [List.cons_append, Stream.follow, ih, List.append_assoc]

theorem Stream.follow_none (events : List NgCallback) :
    Stream.follow (none : Option (Stream Hook)) events = (none, []) := by
  induction events with
  | nil => rfl
  | cons event events ih =>
      simp only [Stream.follow, Option.elim_none, ih, List.append_nil]

theorem Stream.follow_hooks {stream stream' : Stream Hook} {events : List NgCallback}
    (there : (Stream.follow (some stream) events).1 = some stream') :
    stream'.hooks = stream.hooks := by
  induction events generalizing stream with
  | nil =>
      cases there
      rfl
  | cons event events ih =>
      have next : (Stream.follow (stream.callback event).1 events).1 = some stream' := there
      cases after : (stream.callback event).1 with
      | none =>
          rw [after, Stream.follow_none] at next
          cases next
      | some between =>
          rw [after] at next
          exact (ih next).trans (Stream.callback_hooks after)

end Http2Session

/-- What a hook tells its call. -/
def HookCall.event? {Hook : Type} : HookCall Hook → Option CallEvent
  | .responseHeaders _ headers endStream =>
      some (.stream (.responseHeaders headers endStream))
  | .trailers _ headers => some (.stream (.trailers headers))
  | .data _ bytes => some (.stream (.data bytes))
  | .close _ errorCode => some (.close errorCode)
  | .remoteSettings | .settingsAck | .pingAck | .goaway _ _ _ => none

def NgCallback.data : NgCallback → Bytes
  | .onDataChunkRecv _ data => data
  | .onFrameRecv _ | .onHeader _ _ _ _ | .onStreamClose _ _ | .dataSourceRead _ _ => []

def NgCallback.endsStream : NgCallback → Bool
  | .onStreamClose _ _ => true
  | .onFrameRecv _ | .onHeader _ _ _ _ | .onDataChunkRecv _ _ | .dataSourceRead _ _ => false

namespace Reply

/-- The stream of a call after its callbacks, and the hook calls they made. -/
def follow (call : Nat) (reply : Reply) : Option (Stream Nat) × List (HookCall Nat) :=
  Stream.follow (some { hooks := World.makeStreamHooks call, body := reply.body })
    reply.callbacks

def events (call : Nat) (reply : Reply) : List CallEvent :=
  .stream (.submitted reply.streamId) :: (reply.follow call).2.filterMap HookCall.event?

def received (reply : Reply) : Bytes :=
  (reply.callbacks.takeWhile (!·.endsStream)).flatMap NgCallback.data

theorem hear_nil (reply : Reply) : reply.hear [] = reply := by
  simp [hear]

theorem hear_append (before after : List NgCallback) (reply : Reply) :
    reply.hear (before ++ after) = (reply.hear before).hear after := by
  rw [hear, hear, hear, List.filter_append, List.append_assoc]

theorem hear_other {event : NgCallback} {reply : Reply}
    (other : event.streamId? ≠ some reply.streamId) : reply.hear [event] = reply := by
  simp [hear, other]

theorem follow_hear {event : NgCallback} {reply : Reply}
    (own : event.streamId? = some reply.streamId) {call : Nat} {stream : Stream Nat}
    (there : (reply.follow call).1 = some stream) :
    (reply.hear [event]).follow call =
      ((stream.callback event).1, (reply.follow call).2 ++ (stream.callback event).2) := by
  have more : (reply.hear [event]).callbacks = reply.callbacks ++ [event] := by
    simp [hear, own]
  rw [follow, more, Stream.follow_append]
  change (_, (reply.follow call).2 ++ _) = _
  change ((Stream.follow (reply.follow call).1 [event]).1, _ ++
    (Stream.follow (reply.follow call).1 [event]).2) = _
  rw [there]
  simp [Stream.follow]

theorem follow_hear_gone {events : List NgCallback} {reply : Reply} {call : Nat}
    (gone : (reply.follow call).1 = none) :
    (reply.hear events).follow call = reply.follow call := by
  rw [follow, hear, Stream.follow_append]
  change ((Stream.follow (reply.follow call).1 _).1, (reply.follow call).2 ++
    (Stream.follow (reply.follow call).1 _).2) = _
  rw [gone, Stream.follow_none, List.append_nil]
  exact Prod.ext gone.symm rfl

end Reply

/-! ## Where the state of a call comes from -/

def CallEvent.isLocal : CallEvent → Bool
  | .failLocal _ _ => true
  | .stream _ | .close _ => false

/-- A call has handled what its reply tells it, and failures of the channel in
between. -/
def Told (maxReceiveMessageSize call : Nat) (reply : Option Reply) (state : CallState) :
    Prop :=
  ∃ history : List CallEvent,
    state = (CallState.new maxReceiveMessageSize).handleAll history ∧
    history.filter (!·.isLocal) = reply.elim [] (·.events call) ∧
    ∀ code message, .failLocal code message ∈ history → code = .unavailable

namespace Told

variable {maxReceiveMessageSize call : Nat} {reply reply' : Option Reply}
  {state : CallState}

theorem same (told : Told maxReceiveMessageSize call reply state)
    (events : reply'.elim [] (·.events call) = reply.elim [] (·.events call)) :
    Told maxReceiveMessageSize call reply' state := by
  obtain ⟨history, handled, own, local'⟩ := told
  exact ⟨history, handled, own.trans events.symm, local'⟩

theorem hear (told : Told maxReceiveMessageSize call reply state) {more : List CallEvent}
    (notLocal : ∀ event ∈ more, event.isLocal = false)
    (events : reply'.elim [] (·.events call) = reply.elim [] (·.events call) ++ more) :
    Told maxReceiveMessageSize call reply' (state.handleAll more) := by
  obtain ⟨history, rfl, own, local'⟩ := told
  refine ⟨history ++ more, (CallState.handleAll_append _ _ _).symm, ?_, ?_⟩
  · rw [List.filter_append, own, events, List.filter_eq_self.mpr]
    intro event member
    rw [notLocal event member]
    rfl
  · intro code message member
    rcases List.mem_append.mp member with old | new
    · exact local' code message old
    · cases notLocal _ new

theorem failLocal (told : Told maxReceiveMessageSize call reply state) (message : Bytes) :
    Told maxReceiveMessageSize call reply
      (state.handle (.failLocal .unavailable message)) := by
  obtain ⟨history, rfl, own, local'⟩ := told
  refine ⟨history ++ [.failLocal .unavailable message], ?_, ?_, ?_⟩
  · rw [CallState.handleAll_append]
    rfl
  · rw [List.filter_append, own]
    exact List.append_nil _
  · intro code message' member
    rcases List.mem_append.mp member with old | new
    · exact local' code message' old
    · cases List.mem_singleton.mp new
      rfl

end Told

namespace CallTable

theorem hooks_append (table : CallTable) (before after : List (HookCall Nat)) :
    table.hooks (before ++ after) = (table.hooks before).hooks after :=
  List.foldl_append

theorem hooks_shared {table : CallTable} {hookCalls : List (HookCall Nat)}
    (shared : ∀ hookCall ∈ hookCalls, hookCall.Shared) : table.hooks hookCalls = table := by
  induction hookCalls with
  | nil => rfl
  | cons hookCall hookCalls ih =>
      have first : table.hook hookCall = table := by
        have isShared := shared hookCall List.mem_cons_self
        cases hookCall with
        | responseHeaders | trailers | data | close => cases isShared
        | remoteSettings | settingsAck | pingAck | goaway => rfl
      change (table.hook hookCall).hooks hookCalls = table
      rw [first]
      exact ih fun later member => shared later (List.mem_cons_of_mem _ member)

end CallTable

/-- A callback ends its stream, or tells stream events with its DATA. -/
theorem Http2Session.Stream.callback_tells {stream : Stream Nat} {call : Nat}
    (own : stream.hooks = World.makeStreamHooks call) (event : NgCallback) :
    (event.endsStream = true ∧ (stream.callback event).1 = none ∧ ∃ errorCode,
      (stream.callback event).2.filterMap HookCall.event? = [.close errorCode]) ∨
    (event.endsStream = false ∧ ∃ stream', (stream.callback event).1 = some stream' ∧
      ∃ told, (stream.callback event).2.filterMap HookCall.event? =
          told.map CallEvent.stream ∧ dataBytes told = event.data) := by
  cases event with
  | onFrameRecv frame =>
      right
      cases frame with
      | headers streamId response endStream =>
          cases response with
          | true =>
              simp only [callback, own, World.makeStreamHooks]
              exact ⟨rfl, _, rfl, [.responseHeaders stream.pendingHeaders endStream], rfl, rfl⟩
          | false =>
              simp only [callback, own, World.makeStreamHooks]
              exact ⟨rfl, _, rfl, [.trailers stream.pendingHeaders], rfl, rfl⟩
      | settings | ping | goaway | other => exact ⟨rfl, _, rfl, [], rfl, rfl⟩
  | onHeader headersFrame =>
      cases headersFrame <;> exact .inr ⟨rfl, _, rfl, [], rfl, rfl⟩
  | onDataChunkRecv streamId data =>
      right
      simp only [callback, own, World.makeStreamHooks]
      exact ⟨rfl, _, rfl, [.data data], rfl, List.append_nil data⟩
  | onStreamClose streamId errorCode =>
      left
      simp only [callback, own, World.makeStreamHooks]
      exact ⟨rfl, trivial, errorCode, rfl⟩
  | dataSourceRead => exact .inr ⟨rfl, _, rfl, [], rfl, rfl⟩

/-- A callback tells the call of its stream, and no other. -/
theorem Http2Session.Stream.callback_table {stream : Stream Nat} {call : Nat}
    (own : stream.hooks = World.makeStreamHooks call) (event : NgCallback)
    (table : CallTable) :
    (table.hooks (stream.callback event).2).calls =
      Function.update table.calls call ((table.calls call).handleAll
        ((stream.callback event).2.filterMap HookCall.event?)) := by
  have nothing : (table.hooks []).calls =
      Function.update table.calls call ((table.calls call).handleAll []) :=
    (Function.update_eq_self call table.calls).symm
  cases event with
  | onFrameRecv frame =>
      cases frame with
      | headers streamId response endStream =>
          cases response <;> simp only [callback, own, World.makeStreamHooks] <;> rfl
      | settings | ping | goaway | other => exact nothing
  | onHeader headersFrame => cases headersFrame <;> exact nothing
  | onDataChunkRecv | onStreamClose =>
      simp only [callback, own, World.makeStreamHooks]
      rfl
  | dataSourceRead => exact nothing

/-- What a callback tells is never a local failure. -/
theorem Http2Session.Stream.callback_notLocal {stream : Stream Nat} {call : Nat}
    (own : stream.hooks = World.makeStreamHooks call) (event : NgCallback) :
    ∀ told ∈ (stream.callback event).2.filterMap HookCall.event?,
      told.isLocal = false := by
  rcases Stream.callback_tells own event with
    ⟨_, _, errorCode, tells⟩ | ⟨_, _, _, told, tells, _⟩
  · rw [tells]
    simp [CallEvent.isLocal]
  · rw [tells]
    simp [CallEvent.isLocal]

/-! ## A session and the replies it delivers -/

/-- Each call was told what its reply says, the streams of a session are those of
the replies, and no two replies share a stream. -/
structure Answering (maxReceiveMessageSize : Nat) (session : Http2Session Nat)
    (table : CallTable) (replies : Nat → Option Reply) : Prop where
  told : ∀ call, Told maxReceiveMessageSize call (replies call) (table.calls call)
  stream : ∀ call reply, replies call = some reply →
    session.streams.lookup reply.streamId = (reply.follow call).1
  owned : ∀ streamId ∈ session.streams, ∃ call reply,
    replies call = some reply ∧ reply.streamId = streamId
  distinct : ∀ call call' reply reply', replies call = some reply →
    replies call' = some reply' → reply.streamId = reply'.streamId → call = call'

/-- The replies after some callbacks. -/
def Reply.hearAll (callbacks : List NgCallback) (replies : Nat → Option Reply) :
    Nat → Option Reply :=
  fun call => (replies call).map (Reply.hear callbacks)

theorem Reply.hearAll_nil (replies : Nat → Option Reply) : hearAll [] replies = replies := by
  funext call
  cases found : replies call with
  | none => simp [hearAll, found]
  | some reply => simp [hearAll, found, hear_nil]

theorem Reply.hearAll_append (before after : List NgCallback) (replies : Nat → Option Reply) :
    hearAll (before ++ after) replies = hearAll after (hearAll before replies) := by
  funext call
  cases found : replies call with
  | none => simp [hearAll, found]
  | some reply => simp [hearAll, found, hear_append]

namespace Answering

variable {maxReceiveMessageSize : Nat} {session session' : Http2Session Nat}
  {table : CallTable} {replies : Nat → Option Reply}

theorem same (answering : Answering maxReceiveMessageSize session table replies)
    (streams : session'.streams = session.streams) :
    Answering maxReceiveMessageSize session' table replies where
  told := answering.told
  stream := streams ▸ answering.stream
  owned := streams ▸ answering.owned
  distinct := answering.distinct

/-- The calls may be told something that is not in the replies. -/
theorem retell (answering : Answering maxReceiveMessageSize session table replies)
    {table' : CallTable}
    (told : ∀ call, Told maxReceiveMessageSize call (replies call) (table'.calls call)) :
    Answering maxReceiveMessageSize session table' replies :=
  { answering with told := told }

theorem hearAll_distinct (answering : Answering maxReceiveMessageSize session table replies)
    (callbacks : List NgCallback) :
    ∀ call call' reply reply', Reply.hearAll callbacks replies call = some reply →
      Reply.hearAll callbacks replies call' = some reply' →
      reply.streamId = reply'.streamId → call = call' := by
  intro call call' reply reply' found found' sameId
  obtain ⟨old, isOld, rfl⟩ := Option.map_eq_some_iff.mp found
  obtain ⟨old', isOld', rfl⟩ := Option.map_eq_some_iff.mp found'
  exact answering.distinct call call' old old' isOld isOld' sameId

theorem hearAll_owned (answering : Answering maxReceiveMessageSize session table replies)
    (callbacks : List NgCallback) {streamId : Int} (registered : streamId ∈ session.streams) :
    ∃ call reply, Reply.hearAll callbacks replies call = some reply ∧
      reply.streamId = streamId := by
  obtain ⟨call, reply, found, isStream⟩ := answering.owned streamId registered
  exact ⟨call, reply.hear callbacks, by simp [Reply.hearAll, found], isStream⟩

/-- A callback that makes no difference to any stream. -/
theorem unheard (answering : Answering maxReceiveMessageSize session table replies)
    {event : NgCallback} (streams : session'.streams = session.streams)
    (same : ∀ call reply, replies call = some reply →
      (reply.hear [event]).follow call = reply.follow call) :
    Answering maxReceiveMessageSize session' table (Reply.hearAll [event] replies) where
  told := by
    intro call
    refine (answering.told call).same ?_
    cases found : replies call with
    | none => simp [Reply.hearAll, found]
    | some reply =>
        simp only [Reply.hearAll, found, Option.map_some, Option.elim_some]
        rw [Reply.events, same call reply found]
        rfl
  stream := by
    intro call reply found
    obtain ⟨old, isOld, rfl⟩ := Option.map_eq_some_iff.mp found
    rw [same call old isOld, streams]
    exact answering.stream call old isOld
  owned := by
    rw [streams]
    exact fun streamId => answering.hearAll_owned [event]
  distinct := answering.hearAll_distinct [event]

theorem heard (answering : Answering maxReceiveMessageSize session table replies)
    {event : NgCallback} {streamId : Int} (carries : event.streamId? = some streamId)
    {stream : Stream Nat} (found : session.streams.lookup streamId = some stream) :
    Answering maxReceiveMessageSize (session.callback event).1
      (table.hooks (session.callback event).2) (Reply.hearAll [event] replies) := by
  have registered : streamId ∈ session.streams := AList.lookup_isSome.mp (by simp [found])
  obtain ⟨call, reply, isReply, rfl⟩ := answering.owned streamId registered
  have there : (reply.follow call).1 = some stream :=
    (answering.stream call reply isReply).symm.trans found
  have own : stream.hooks = World.makeStreamHooks call := Stream.follow_hooks there
  have next := Reply.follow_hear carries there
  obtain ⟨hookCalls, touches⟩ := Http2Session.callback_of_registered carries found
  have calls := Stream.callback_table own event table
  -- Any other reply does not hear it.
  have others (other : Nat) (ne : other ≠ call) (reply' : Reply)
      (isReply' : replies other = some reply') :
      reply'.hear [event] = reply' ∧ reply'.streamId ≠ reply.streamId := by
    have ids : reply'.streamId ≠ reply.streamId := fun sameId =>
      ne (answering.distinct other call reply' reply isReply' isReply sameId)
    refine ⟨Reply.hear_other ?_, ids⟩
    rw [carries]
    exact fun same => ids (Option.some.inj same).symm
  rw [hookCalls]
  refine ⟨?_, ?_, ?_, answering.hearAll_distinct [event]⟩
  · intro other
    rw [calls]
    by_cases same : other = call
    · subst same
      rw [Function.update_self]
      refine (answering.told other).hear (Stream.callback_notLocal own event) ?_
      simp only [Reply.hearAll, isReply, Option.map_some, Option.elim_some, Reply.events,
        next, List.filterMap_append]
      rfl
    · rw [Function.update_of_ne same]
      refine (answering.told other).same ?_
      cases isReply' : replies other with
      | none => simp [Reply.hearAll, isReply']
      | some reply' => simp [Reply.hearAll, isReply', (others other same reply' isReply').1]
  · intro other heard isHeard
    obtain ⟨old, isOld, rfl⟩ := Option.map_eq_some_iff.mp isHeard
    rw [touches.lookup]
    by_cases same : other = call
    · subst same
      cases isReply.symm.trans isOld
      rw [next]
      exact if_pos rfl
    · obtain ⟨unchanged, ids⟩ := others other same old isOld
      rw [unchanged, if_neg ids]
      exact answering.stream other old isOld
  · intro other member
    have still := AList.lookup_isSome.mpr member
    rw [touches.lookup] at still
    split_ifs at still with same
    · exact same ▸ answering.hearAll_owned [event] registered
    · exact answering.hearAll_owned [event] (AList.lookup_isSome.mp still)

theorem callback (answering : Answering maxReceiveMessageSize session table replies)
    (event : NgCallback) :
    Answering maxReceiveMessageSize (session.callback event).1
      (table.hooks (session.callback event).2) (Reply.hearAll [event] replies) := by
  cases carries : event.streamId? with
  | none =>
      obtain ⟨streams, _, shared⟩ := session.callback_of_shared carries
      rw [CallTable.hooks_shared shared]
      refine answering.unheard streams fun call reply _ => ?_
      rw [Reply.hear_other (by simp [carries])]
  | some streamId =>
      cases found : session.streams.lookup streamId with
      | none =>
          rw [Http2Session.callback_of_unknown carries found]
          refine answering.unheard rfl fun call reply isReply => ?_
          by_cases own : streamId = reply.streamId
          · have gone := answering.stream call reply isReply
            rw [← own, found] at gone
            exact Reply.follow_hear_gone gone.symm
          · rw [Reply.hear_other (by simp [carries, own])]
      | some stream => exact answering.heard carries found

theorem runCallbacks (events : List NgCallback)
    (answering : Answering maxReceiveMessageSize session table replies) :
    Answering maxReceiveMessageSize (session.runCallbacks events).1
      (table.hooks (session.runCallbacks events).2) (Reply.hearAll events replies) := by
  induction events generalizing session table replies with
  | nil =>
      rw [Reply.hearAll_nil]
      exact answering
  | cons event events ih =>
      have rest := ih (answering.callback event)
      rw [← Reply.hearAll_append, List.singleton_append] at rest
      simp only [Http2Session.runCallbacks, CallTable.hooks_append]
      exact rest

theorem refill (platform : Platform) (answers : List MemSend)
    (answering : Answering maxReceiveMessageSize session table replies) :
    ∃ used, answers = used ++ (SessionIo.refill platform answers session).2.2.2 ∧
      Answering maxReceiveMessageSize (SessionIo.refill platform answers session).2.2.1
        (table.hooks (SessionIo.refill platform answers session).2.1)
        (Reply.hearAll (used.flatMap MemSend.callbacks) replies) := by
  induction answers generalizing session table replies with
  | nil =>
      refine ⟨[], rfl, ?_⟩
      rw [List.flatMap_nil, Reply.hearAll_nil]
      exact answering
  | cons answer answers ih =>
      have ran := answering.runCallbacks answer.callbacks
      have one : [answer].flatMap MemSend.callbacks = answer.callbacks :=
        List.flatMap_singleton ..
      unfold SessionIo.refill
      simp only
      split
      · refine ⟨[answer], rfl, ?_⟩
        rw [one]
        exact ran.same rfl
      · refine ⟨[answer], rfl, ?_⟩
        rw [one]
        exact ran
      · rename_i chunk _ _
        obtain ⟨used, split, rest⟩ := @ih { (session.runCallbacks answer.callbacks).1 with
          out := (session.runCallbacks answer.callbacks).1.out ++ chunk } _ _ (ran.same rfl)
        refine ⟨answer :: used, congrArg (answer :: ·) split, ?_⟩
        rw [List.flatMap_cons, Reply.hearAll_append, CallTable.hooks_append]
        exact rest

theorem pendingOutput (answering : Answering maxReceiveMessageSize session table replies)
    (platform : Platform) (env : NgEnv) :
    let before : SessionIo Nat := ⟨session, env⟩
    let done := (before.pendingOutput platform).2
    Answering maxReceiveMessageSize done.2.session (table.hooks done.1)
        (Reply.hearAll (before.heard done.2) replies) ∧
      done.2.env.issued = env.issued := by
  intro before done
  have nothing : before.heard before = [] := by simp [SessionIo.heard]
  have filled : Answering maxReceiveMessageSize (before.refillOutput platform).2.2.session
      (table.hooks (before.refillOutput platform).2.1)
      (Reply.hearAll (before.heard (before.refillOutput platform).2.2) replies) := by
    have cleared : Answering maxReceiveMessageSize session.clearOutput table replies :=
      answering.same rfl
    obtain ⟨used, split, rest⟩ := cleared.refill platform env.memSends
    have heard : before.heard (before.refillOutput platform).2.2 =
        used.flatMap MemSend.callbacks := by
      have taken {answers left : List MemSend} (split : answers = used ++ left) :
          answers.take (answers.length - left.length) = used := by
        rw [split]
        simp
      simp [SessionIo.heard, SessionIo.refillOutput, before, taken split]
    rw [heard]
    exact rest
  unfold done SessionIo.pendingOutput
  simp only
  split_ifs
  · rw [nothing, Reply.hearAll_nil]
    exact ⟨answering, rfl⟩
  · exact ⟨filled, rfl⟩
  · exact ⟨filled, rfl⟩
  · rw [nothing, Reply.hearAll_nil]
    exact ⟨answering, rfl⟩

theorem receiveBytes (answering : Answering maxReceiveMessageSize session table replies)
    (platform : Platform) (now : Int) (data : Bytes) (env : NgEnv) :
    let before : SessionIo Nat := ⟨session, env⟩
    let done := (before.receiveBytes platform now data).2
    Answering maxReceiveMessageSize done.2.session (table.hooks done.1)
        (Reply.hearAll (before.heard done.2) replies) ∧
      done.2.env.issued = env.issued := by
  intro before done
  have read : Answering maxReceiveMessageSize (session.noteRead now data) table replies := by
    unfold Http2Session.noteRead
    split_ifs
    · exact answering.same rfl
    · exact answering
  have ran := read.runCallbacks (takeAnswer {} env.memRecvs).1.callbacks
  have heard (after : SessionIo Nat) (memSends : after.env.memSends = env.memSends)
      (memRecvs : after.env.memRecvs = (takeAnswer {} env.memRecvs).2) :
      before.heard after = (takeAnswer {} env.memRecvs).1.callbacks := by
    cases answers : env.memRecvs with
    | nil => simp [SessionIo.heard, memSends, memRecvs, before, answers, takeAnswer]
    | cons answer rest =>
        simp [SessionIo.heard, memSends, memRecvs, before, answers, takeAnswer]
  unfold done SessionIo.receiveBytes
  simp only
  split_ifs
  · have nothing : before.heard before = [] := by simp [SessionIo.heard]
    rw [nothing, Reply.hearAll_nil]
    exact ⟨answering, rfl⟩
  · rw [heard _ rfl rfl]
    exact ⟨ran.same rfl, rfl⟩
  · rw [heard _ rfl rfl]
    exact ⟨ran, rfl⟩

theorem register (answering : Answering maxReceiveMessageSize session table replies)
    {call : Nat} (unanswered : replies call = none) {streamId : Int}
    (isNew : ∀ other reply, replies other = some reply → reply.streamId ≠ streamId)
    (body : Bytes) :
    Answering maxReceiveMessageSize
      (session.register streamId { hooks := World.makeStreamHooks call, body := body })
      ((table.deliver call (.stream (.submitted streamId))).activate call)
      (Function.update replies call (some { streamId := streamId, body := body })) := by
  have unknown : streamId ∉ session.streams := by
    intro registered
    obtain ⟨other, reply, isReply, same⟩ := answering.owned streamId registered
    exact isNew other reply isReply same
  have touches := Http2Session.touches_register unknown
    { hooks := World.makeStreamHooks call, body := body }
  refine ⟨?_, ?_, ?_, ?_⟩
  · intro other
    change Told _ _ _ (Function.update table.calls call _ other)
    by_cases same : other = call
    · subst same
      rw [Function.update_self, Function.update_self]
      have submitted : Told maxReceiveMessageSize other
          (some { streamId := streamId, body := body })
          ((table.calls other).handleAll [.stream (.submitted streamId)]) := by
        refine (answering.told other).hear (by simp [CallEvent.isLocal]) ?_
        rw [unanswered]
        rfl
      exact submitted
    · rw [Function.update_of_ne same, Function.update_of_ne same]
      exact answering.told other
  · intro other reply isReply
    rw [touches.lookup]
    by_cases same : other = call
    · subst same
      rw [Function.update_self] at isReply
      cases isReply
      exact if_pos rfl
    · rw [Function.update_of_ne same] at isReply
      rw [if_neg (isNew other reply isReply)]
      exact answering.stream other reply isReply
  · intro other registered
    have still := AList.lookup_isSome.mpr registered
    rw [touches.lookup] at still
    split_ifs at still with same
    · exact ⟨call, _, Function.update_self .., same.symm⟩
    · obtain ⟨owner, reply, isReply, isOther⟩ :=
        answering.owned other (AList.lookup_isSome.mp still)
      have ne : owner ≠ call := by
        rintro rfl
        cases unanswered.symm.trans isReply
      exact ⟨owner, reply, (Function.update_of_ne ne ..).trans isReply, isOther⟩
  · intro first second reply reply' isReply isReply' sameId
    by_cases isFirst : first = call
    · by_cases isSecond : second = call
      · exact isFirst.trans isSecond.symm
      · subst isFirst
        rw [Function.update_self] at isReply
        rw [Function.update_of_ne isSecond] at isReply'
        cases isReply
        exact absurd sameId.symm (isNew second reply' isReply')
    · rw [Function.update_of_ne isFirst] at isReply
      by_cases isSecond : second = call
      · subst isSecond
        rw [Function.update_self] at isReply'
        cases isReply'
        exact absurd sameId (isNew first reply isReply)
      · rw [Function.update_of_ne isSecond] at isReply'
        exact answering.distinct first second reply reply' isReply isReply' sameId

end Answering

/-! ## The DATA of a reply -/

/-- Up to a closing event, stream events are passed one by one. -/
theorem CallEvent.prefix_stream {events told : List StreamEvent} {errorCode : Nat}
    {rest : List CallEvent}
    (closed : events.map CallEvent.stream ++ [.close errorCode] <+:
      told.map CallEvent.stream ++ rest) :
    ∃ events', events = told ++ events' ∧
      events'.map CallEvent.stream ++ [.close errorCode] <+: rest := by
  induction told generalizing events with
  | nil => exact ⟨events, rfl, closed⟩
  | cons event told ih =>
      cases events with
      | nil => cases (List.cons_prefix_cons.mp closed).1
      | cons first events =>
          obtain ⟨same, further⟩ := List.cons_prefix_cons.mp closed
          obtain ⟨events', rfl, shorter⟩ := ih further
          cases same
          exact ⟨events', rfl, shorter⟩

theorem Http2Session.Stream.follow_data {stream : Stream Nat} {call : Nat}
    (own : stream.hooks = World.makeStreamHooks call) {callbacks : List NgCallback}
    {events : List StreamEvent} {errorCode : Nat}
    (closed : events.map CallEvent.stream ++ [.close errorCode] <+:
      (Stream.follow (some stream) callbacks).2.filterMap HookCall.event?) :
    dataBytes events = (callbacks.takeWhile (!·.endsStream)).flatMap NgCallback.data := by
  induction callbacks generalizing stream events with
  | nil => simp [Stream.follow] at closed
  | cons event callbacks ih =>
      simp only [Stream.follow, Option.elim_some, List.filterMap_append] at closed
      rcases Stream.callback_tells own event with
        ⟨ends, gone, errorCode', tells⟩ | ⟨goesOn, stream', there, told, tells, bytes⟩
      · rw [gone, Stream.follow_none, tells] at closed
        rw [List.takeWhile_cons_of_neg (by simp [ends])]
        cases events with
        | nil => rfl
        | cons first events => cases (List.cons_prefix_cons.mp closed).1
      · rw [there, tells] at closed
        obtain ⟨events', rfl, shorter⟩ := CallEvent.prefix_stream closed
        have rest := ih ((Stream.callback_hooks there).trans own) shorter
        rw [List.takeWhile_cons_of_pos (by simp [goesOn]), List.flatMap_cons, ← bytes, ← rest]
        simp [dataBytes]

/-- What a call was told up to the closing of its stream holds the DATA received. -/
theorem Reply.dataBytes_events {reply : Reply} {call : Nat} {events : List StreamEvent}
    {errorCode : Nat}
    (closed : events.map CallEvent.stream ++ [.close errorCode] <+: reply.events call) :
    dataBytes events = reply.received := by
  obtain ⟨events', rfl, shorter⟩ :=
    @CallEvent.prefix_stream _ [.submitted reply.streamId] _ _ closed
  have rest : dataBytes events' = reply.received :=
    @Stream.follow_data { hooks := World.makeStreamHooks call, body := reply.body } call rfl
      _ _ _ shorter
  exact rest

end Egrpc
