import Egrpc.Http2SessionInvariant

/-!
# Streams of one session

All streams of a session share one map, one header callback and one closing
callback.  This file follows a single stream through a run of the session: what
its hooks are called with depends on its own submission and on the callbacks
that carry its id, and on nothing else in the run.  Hooks are labelled with the
id of the stream they were submitted for, so that a run shows whose hooks it
calls.
-/

namespace Egrpc

variable {Hook Label : Type}

/-! ## One stream on its own -/

def NgCallback.streamId? : NgCallback → Option Int
  | .onFrameRecv (.headers streamId _ _) => some streamId
  | .onFrameRecv (.settings _) | .onFrameRecv (.ping _)
  | .onFrameRecv (.goaway _ _ _) | .onFrameRecv .other => none
  | .onHeader _ streamId _ _ | .onDataChunkRecv streamId _
  | .onStreamClose streamId _ | .dataSourceRead streamId _ => some streamId

/-- What a callback with its id does to a registered stream. -/
def Http2Session.Stream.callback (stream : Http2Session.Stream Hook) :
    NgCallback → Option (Http2Session.Stream Hook) × List (HookCall Hook)
  | .onFrameRecv (.headers _ response endStream) =>
      (some { stream with pendingHeaders := [] },
        if response then
          (stream.hooks.onResponseHeaders.map
            (.responseHeaders · stream.pendingHeaders endStream)).toList
        else (stream.hooks.onTrailers.map (.trailers · stream.pendingHeaders)).toList)
  | .onFrameRecv (.settings _) | .onFrameRecv (.ping _)
  | .onFrameRecv (.goaway _ _ _) | .onFrameRecv .other => (some stream, [])
  | .onHeader false _ _ _ => (some stream, [])
  | .onHeader true _ name value =>
      (some { stream with
        pendingHeaders := stream.pendingHeaders ++ [(name, value)] }, [])
  | .onDataChunkRecv _ data =>
      (some stream, (stream.hooks.onData.map (.data · data)).toList)
  | .onStreamClose _ errorCode =>
      (none, (stream.hooks.onClose.map (.close · errorCode)).toList)
  | .dataSourceRead _ length => (some (stream.dataSourceRead length).2.2, [])

/-- What happens to one stream. -/
inductive StreamStep (Label : Type)
  | submitted (hooks : StreamHooks Label) (body : Bytes)
  | callback (event : NgCallback)

def StreamHooks.label (streamId : Int) (hooks : StreamHooks Label) :
    StreamHooks (Int × Label) where
  onResponseHeaders := hooks.onResponseHeaders.map (streamId, ·)
  onTrailers := hooks.onTrailers.map (streamId, ·)
  onData := hooks.onData.map (streamId, ·)
  onClose := hooks.onClose.map (streamId, ·)

/-- Follow one stream through one step. -/
def StreamStep.follow (streamId : Int)
    (stream : Option (Http2Session.Stream (Int × Label))) :
    StreamStep Label →
      Option (Http2Session.Stream (Int × Label)) × List (HookCall (Int × Label))
  | .submitted hooks body =>
      (some { hooks := hooks.label streamId, body := body }, [])
  | .callback event =>
      match stream with
      | none => (none, [])
      | some stream => stream.callback event

def StreamStep.followAll (streamId : Int)
    (stream : Option (Http2Session.Stream (Int × Label))) :
    List (StreamStep Label) →
      Option (Http2Session.Stream (Int × Label)) × List (HookCall (Int × Label))
  | [] => (stream, [])
  | step :: steps =>
      let first := step.follow streamId stream
      let rest := followAll streamId first.1 steps
      (rest.1, first.2 ++ rest.2)

/-! ## The session -/

inductive SessionEvent (Label : Type)
  | submit (headers : HeaderList) (body : Bytes) (hooks : StreamHooks Label)
  | callback (event : NgCallback)

def HookCall.streamId? : HookCall (Int × Label) → Option Int
  | .responseHeaders hook _ _ | .trailers hook _ | .data hook _
  | .close hook _ => some hook.1
  | .remoteSettings | .settingsAck | .pingAck | .goaway _ _ _ => none

def HookCall.headers? : HookCall Hook → Option HeaderList
  | .responseHeaders _ headers _ | .trailers _ headers => some headers
  | .data _ _ | .close _ _ | .remoteSettings | .settingsAck | .pingAck
  | .goaway _ _ _ => none

def HookCall.IsClose : HookCall Hook → Prop
  | .close _ _ => True
  | .responseHeaders _ _ _ | .trailers _ _ | .data _ _ | .remoteSettings
  | .settingsAck | .pingAck | .goaway _ _ _ => False

def HookCall.ofStream (streamId : Int) (calls : List (HookCall (Int × Label))) :
    List (HookCall (Int × Label)) :=
  calls.filter (·.streamId? = some streamId)

namespace SessionIo

/-- What nghttp2 will answer to a submission. -/
def nextStreamId (platform : Platform) (headers : HeaderList) (body : Bytes)
    (io : SessionIo Hook) : Int :=
  (io.submitUnaryRequest platform headers body {}).1

def handle (platform : Platform) (io : SessionIo (Int × Label)) :
    SessionEvent Label → List (HookCall (Int × Label)) × SessionIo (Int × Label)
  | .submit headers body hooks =>
      ([], (io.submitUnaryRequest platform headers body
        (hooks.label (io.nextStreamId platform headers body))).2)
  | .callback event =>
      ((io.session.callback event).2,
        { io with session := (io.session.callback event).1 })

def handleAll (platform : Platform) (io : SessionIo (Int × Label)) :
    List (SessionEvent Label) →
      List (HookCall (Int × Label)) × SessionIo (Int × Label)
  | [] => ([], io)
  | event :: events =>
      let first := io.handle platform event
      let rest := handleAll platform first.2 events
      (first.1 ++ rest.1, rest.2)

/-- What an event is to one stream: its own submission, a callback with its id,
or nothing. -/
def project (platform : Platform) (streamId : Int) (io : SessionIo (Int × Label)) :
    SessionEvent Label → List (StreamStep Label)
  | .submit headers body hooks =>
      if io.nextStreamId platform headers body = streamId ∧ 0 ≤ streamId then
        [.submitted hooks body]
      else []
  | .callback event =>
      if event.streamId? = some streamId then [.callback event] else []

/-- What a run is to one stream. -/
def projectAll (platform : Platform) (streamId : Int)
    (io : SessionIo (Int × Label)) :
    List (SessionEvent Label) → List (StreamStep Label)
  | [] => []
  | event :: events =>
      io.project platform streamId event ++
        projectAll platform streamId (io.handle platform event).2 events

end SessionIo

/-- The step starts a new header block of the stream. -/
def StreamStep.startsBlock : StreamStep Label → Bool
  | .submitted _ _ | .callback (.onFrameRecv (.headers _ _ _)) => true
  | .callback (.onFrameRecv (.settings _)) | .callback (.onFrameRecv (.ping _))
  | .callback (.onFrameRecv (.goaway _ _ _)) | .callback (.onFrameRecv .other)
  | .callback (.onHeader _ _ _ _) | .callback (.onDataChunkRecv _ _)
  | .callback (.onStreamClose _ _) | .callback (.dataSourceRead _ _) => false

/-- The header that a step brings. -/
def StreamStep.header? : StreamStep Label → Option (Bytes × Bytes)
  | .callback (.onHeader true _ name value) => some (name, value)
  | .callback (.onHeader false _ _ _) | .submitted _ _ | .callback (.onFrameRecv _)
  | .callback (.onDataChunkRecv _ _) | .callback (.onStreamClose _ _)
  | .callback (.dataSourceRead _ _) => none

/-- The headers that a stream has received since its last HEADERS frame. -/
def StreamStep.headersSince (history : List (StreamStep Label)) : HeaderList :=
  (history.reverse.takeWhile (!·.startsBlock)).reverse.filterMap header?

/-! ## One callback -/

namespace Http2Session

theorem callback_of_shared (session : Http2Session Hook) {event : NgCallback}
    (shared : event.streamId? = .none) :
    (session.callback event).1.streams = session.streams ∧
      (session.callback event).1.activeStreams = session.activeStreams ∧
      ∀ call ∈ (session.callback event).2, call.Shared := by
  have optional {set : Bool} {call' : HookCall Hook} (call : HookCall Hook)
      (isShared : call.Shared) (member : call' ∈ if set then [call] else []) :
      call'.Shared := by
    cases set with
    | false => cases member
    | true => exact List.mem_singleton.mp member ▸ isShared
  cases event with
  | onFrameRecv frame =>
      cases frame with
      | headers => cases shared
      | settings ack =>
          cases ack with
          | false => exact ⟨rfl, rfl, fun _ => optional .remoteSettings trivial⟩
          | true => exact ⟨rfl, rfl, fun _ => optional .settingsAck trivial⟩
      | ping ack =>
          cases ack with
          | false => exact ⟨rfl, rfl, nofun⟩
          | true => exact ⟨rfl, rfl, fun _ => optional .pingAck trivial⟩
      | goaway errorCode lastStreamId opaqueData =>
          exact ⟨rfl, rfl, fun _ => optional (.goaway errorCode lastStreamId
            (isTooManyPings errorCode opaqueData)) trivial⟩
      | other => exact ⟨rfl, rfl, nofun⟩
  | onHeader | onDataChunkRecv | onStreamClose | dataSourceRead => cases shared

theorem callback_of_unknown {session : Http2Session Hook} {event : NgCallback}
    {streamId : Int} (carries : event.streamId? = .some streamId)
    (unknown : session.streams.lookup streamId = .none) :
    session.callback event = (session, []) := by
  cases event with
  | onFrameRecv frame =>
      cases frame with
      | headers other =>
          cases carries
          simp only [callback, onFrameRecv, onHeadersFrame, unknown]
      | settings | ping | goaway | other => cases carries
  | onHeader headersFrame other =>
      cases carries
      simp only [callback, onHeader, unknown, ite_self]
  | onDataChunkRecv other =>
      cases carries
      simp only [callback, onDataChunkRecv, unknown]
  | onStreamClose other =>
      cases carries
      simp only [callback, onStreamClose, unknown]
  | dataSourceRead other =>
      cases carries
      simp only [callback, onDataSourceRead, unknown]

/-- What a callback with its id does to a registered stream, and to no other. -/
structure Touches (session : Http2Session Hook) (streamId : Int)
    (stream : Option (Stream Hook)) (session' : Http2Session Hook) : Prop where
  lookup : ∀ other, session'.streams.lookup other =
    if other = streamId then stream else session.streams.lookup other
  counted : session'.activeStreams - session'.streams.keys.length =
    session.activeStreams - session.streams.keys.length

theorem touches_insert {session : Http2Session Hook} {streamId : Int}
    {stream : Stream Hook} (found : session.streams.lookup streamId = .some stream)
    (stream' : Stream Hook) :
    Touches session streamId (.some stream')
      { session with streams := session.streams.insert streamId stream' } where
  lookup := by
    intro other
    split_ifs with same
    · rw [same, AList.lookup_insert]
    · rw [AList.lookup_insert_ne same]
  counted := by
    have member : streamId ∈ session.streams := AList.lookup_isSome.mp (by simp [found])
    rw [length_keys_insert_of_mem member]

theorem touches_nothing {session : Http2Session Hook} {streamId : Int}
    {stream : Option (Stream Hook)}
    (found : session.streams.lookup streamId = stream) :
    Touches session streamId stream session where
  lookup := by
    intro other
    split_ifs with same
    · rw [same, found]
    · rfl
  counted := rfl

theorem touches_erase {session : Http2Session Hook} {streamId : Int}
    {stream : Stream Hook} (found : session.streams.lookup streamId = .some stream) :
    Touches session streamId .none
      { session with
        streams := session.streams.erase streamId
        activeStreams := session.activeStreams - 1 } where
  lookup := by
    intro other
    split_ifs with same
    · rw [same, AList.lookup_erase]
    · rw [AList.lookup_erase_ne same]
  counted := by
    have member : streamId ∈ session.streams := AList.lookup_isSome.mp (by simp [found])
    have count := (session.unregistered_erase member).count
    simp only at count ⊢
    omega

theorem callback_of_registered {session : Http2Session Hook} {event : NgCallback}
    {streamId : Int} {stream : Stream Hook}
    (carries : event.streamId? = .some streamId)
    (found : session.streams.lookup streamId = .some stream) :
    (session.callback event).2 = (stream.callback event).2 ∧
      Touches session streamId (stream.callback event).1
        (session.callback event).1 := by
  cases event with
  | onFrameRecv frame =>
      cases frame with
      | headers other =>
          cases carries
          simp only [callback, onFrameRecv, onHeadersFrame, found]
          exact ⟨rfl, touches_insert found _⟩
      | settings | ping | goaway | other => cases carries
  | onHeader headersFrame other name value =>
      cases carries
      cases headersFrame with
      | false => exact ⟨rfl, touches_nothing found⟩
      | true =>
          simp only [callback, onHeader, found]
          exact ⟨rfl, touches_insert found _⟩
  | onDataChunkRecv other =>
      cases carries
      simp only [callback, onDataChunkRecv, found]
      exact ⟨rfl, touches_nothing found⟩
  | onStreamClose other =>
      cases carries
      simp only [callback, onStreamClose, found]
      exact ⟨rfl, touches_erase found⟩
  | dataSourceRead other =>
      cases carries
      simp only [callback, onDataSourceRead, found]
      exact ⟨rfl, touches_insert found _⟩

theorem touches_register {session : Http2Session Hook} {streamId : Int}
    (unknown : streamId ∉ session.streams) (stream : Stream Hook) :
    Touches session streamId (.some stream) (session.register streamId stream) where
  lookup := by
    intro other
    unfold register
    rw [if_neg unknown]
    split_ifs with same
    · rw [same, AList.lookup_insert]
    · rw [AList.lookup_insert_ne same]
  counted := by
    have count := (session.registered_register unknown stream).count
    have active : (session.register streamId stream).activeStreams =
        session.activeStreams + 1 := rfl
    rw [active, count]
    omega

theorem Stream.callback_hooks {stream stream' : Stream Hook} {event : NgCallback}
    (next : (stream.callback event).1 = .some stream') :
    stream'.hooks = stream.hooks := by
  cases event with
  | onFrameRecv frame => cases frame <;> cases next <;> rfl
  | onHeader headersFrame => cases headersFrame <;> cases next <;> rfl
  | onDataChunkRecv => cases next; rfl
  | onStreamClose => cases next
  | dataSourceRead => cases next; rfl

/-- A callback calls at most one hook, and the closing hook last of all. -/
theorem Stream.callback_close (stream : Stream Hook) (event : NgCallback) :
    (stream.callback event).2.length ≤ 1 ∧
      ∀ call ∈ (stream.callback event).2, call.IsClose →
        (stream.callback event).1 = .none := by
  have optional {hook : Option Hook} (call : Hook → HookCall Hook) :
      (hook.map call).toList.length ≤ 1 := by
    cases hook <;> simp
  have open' {hook : Option Hook} {call : Hook → HookCall Hook}
      (isOpen : ∀ hook, ¬ (call hook).IsClose) :
      ∀ called ∈ (hook.map call).toList, ¬ called.IsClose := by
    cases hook with
    | none => exact nofun
    | some hook => simpa using isOpen hook
  cases event with
  | onFrameRecv frame =>
      cases frame with
      | headers other response endStream =>
          cases response with
          | true =>
              exact ⟨optional _, fun call member isClose =>
                absurd isClose (open' (fun _ => id) call member)⟩
          | false =>
              exact ⟨optional _, fun call member isClose =>
                absurd isClose (open' (fun _ => id) call member)⟩
      | settings | ping | goaway | other => exact ⟨Nat.zero_le 1, nofun⟩
  | onHeader headersFrame => cases headersFrame <;> exact ⟨Nat.zero_le 1, nofun⟩
  | onDataChunkRecv other data =>
      exact ⟨optional _, fun call member isClose =>
        absurd isClose (open' (fun _ => id) call member)⟩
  | onStreamClose other errorCode => exact ⟨optional _, fun _ _ _ => rfl⟩
  | dataSourceRead => exact ⟨Nat.zero_le 1, nofun⟩

/-- The headers gathered so far are what a hook is given. -/
theorem Stream.callback_headers (stream : Stream Hook) (event : NgCallback) :
    ∀ call ∈ (stream.callback event).2, ∀ headers ∈ call.headers?,
      headers = stream.pendingHeaders := by
  have optional {hook : Option Hook} {call : Hook → HookCall Hook}
      (given : ∀ hook, ∀ headers ∈ (call hook).headers?,
        headers = stream.pendingHeaders) :
      ∀ called ∈ (hook.map call).toList, ∀ headers ∈ called.headers?,
        headers = stream.pendingHeaders := by
    cases hook with
    | none => exact nofun
    | some hook => simpa using given hook
  cases event with
  | onFrameRecv frame =>
      cases frame with
      | headers other response endStream =>
          cases response with
          | true => exact optional fun _ _ given => (Option.some.inj given).symm
          | false => exact optional fun _ _ given => (Option.some.inj given).symm
      | settings | ping | goaway | other => exact nofun
  | onHeader headersFrame => cases headersFrame <;> exact nofun
  | onDataChunkRecv other data => exact optional nofun
  | onStreamClose other errorCode => exact optional nofun
  | dataSourceRead => exact nofun

theorem Stream.callback_streamId {stream : Stream (Int × Label)} {streamId : Int}
    {hooks : StreamHooks Label} (labelled : stream.hooks = hooks.label streamId)
    {event : NgCallback} :
    ∀ call ∈ (stream.callback event).2, call.streamId? = .some streamId := by
  have optional {hook : Option Label}
      (call : Int × Label → HookCall (Int × Label))
      (own : ∀ hook, (call hook).streamId? = .some hook.1) :
      ∀ called ∈ ((hook.map (streamId, ·)).map call).toList,
        called.streamId? = .some streamId := by
    intro called member
    cases hook with
    | none => cases member
    | some hook =>
        rw [List.mem_singleton.mp member]
        exact own (streamId, hook)
  cases event with
  | onFrameRecv frame =>
      cases frame with
      | headers other response endStream =>
          simp only [Stream.callback, labelled, StreamHooks.label]
          cases response with
          | true => exact optional (.responseHeaders · _ _) fun _ => rfl
          | false => exact optional (.trailers · _) fun _ => rfl
      | settings | ping | goaway | other => exact nofun
  | onHeader headersFrame => cases headersFrame <;> exact nofun
  | onDataChunkRecv other data =>
      simp only [Stream.callback, labelled, StreamHooks.label]
      exact optional (.data · _) fun _ => rfl
  | onStreamClose other errorCode =>
      simp only [Stream.callback, labelled, StreamHooks.label]
      exact optional (.close · _) fun _ => rfl
  | dataSourceRead => exact nofun

end Http2Session

namespace HookCall

theorem ofStream_append (streamId : Int)
    (first second : List (HookCall (Int × Label))) :
    ofStream streamId (first ++ second) =
      ofStream streamId first ++ ofStream streamId second :=
  List.filter_append _ _

theorem ofStream_shared {streamId : Int} {calls : List (HookCall (Int × Label))}
    (shared : ∀ call ∈ calls, call.Shared) : ofStream streamId calls = [] := by
  refine List.filter_eq_nil_iff.mpr fun call member => ?_
  have isShared := shared call member
  cases call <;> first | exact isShared.elim | simp [streamId?]

theorem ofStream_own {streamId owner : Int} {calls : List (HookCall (Int × Label))}
    (own : ∀ call ∈ calls, call.streamId? = some owner) :
    ofStream streamId calls = if streamId = owner then calls else [] := by
  split_ifs with same
  · refine List.filter_eq_self.mpr fun call member => ?_
    simp [own call member, same]
  · refine List.filter_eq_nil_iff.mpr fun call member => ?_
    simp [own call member, Ne.symm same]

end HookCall

/-! ## A run as one stream sees it -/

namespace SessionIo

variable {platform : Platform} {io : SessionIo (Int × Label)}

/-- The registered streams were issued by nghttp2, have their own label, and
are counted. -/
structure Labelled (io : SessionIo (Int × Label)) : Prop where
  issued : ∀ streamId ∈ io.session.streams, streamId ∈ io.env.issued
  labels : ∀ streamId stream, io.session.streams.lookup streamId = some stream →
    ∃ hooks : StreamHooks Label, stream.hooks = hooks.label streamId
  counted : io.session.activeStreams = io.session.streams.keys.length

theorem new_labelled (Label : Type) (platform : Platform) (options : Http2SessionOptions)
    (hooks : Http2Session.Hooks) (now : Int) (env : NgEnv) :
    (new platform options hooks now env : SessionIo (Int × Label)).Labelled ∧
      ∀ streamId, (new platform options hooks now env :
        SessionIo (Int × Label)).session.streams.lookup streamId = none := by
  have empty : (new platform options hooks now env :
      SessionIo (Int × Label)).session.streams = ∅ ∧
      (new platform options hooks now env :
        SessionIo (Int × Label)).session.activeStreams = 0 := by
    unfold new setError
    simp only
    split_ifs <;> exact ⟨rfl, rfl⟩
  have nothing (streamId : Int) : (new platform options hooks now env :
      SessionIo (Int × Label)).session.streams.lookup streamId = none := by
    rw [empty.1]
    rfl
  refine ⟨⟨?_, ?_, ?_⟩, nothing⟩
  · intro streamId member
    rw [empty.1] at member
    exact absurd member (AList.notMem_empty streamId)
  · intro streamId stream found
    rw [nothing] at found
    cases found
  · rw [empty.1, empty.2]
    rfl

theorem Labelled.touched (labelled : io.Labelled) {streamId : Int}
    {stream : Option (Http2Session.Stream (Int × Label))}
    {session : Http2Session (Int × Label)} {env : NgEnv}
    (touches : Http2Session.Touches io.session streamId stream session)
    (issued : ∀ other ∈ io.env.issued, other ∈ env.issued)
    (own : ∀ touched, stream = some touched → streamId ∈ env.issued ∧
      ∃ hooks : StreamHooks Label, touched.hooks = hooks.label streamId) :
    (⟨session, env⟩ : SessionIo (Int × Label)).Labelled where
  issued := by
    intro other member
    obtain ⟨found, isFound⟩ := Option.isSome_iff_exists.mp
      (AList.lookup_isSome.mpr member)
    rw [touches.lookup] at isFound
    split_ifs at isFound with same
    · exact same ▸ (own found isFound).1
    · exact issued other (labelled.issued other
        (AList.lookup_isSome.mp (by rw [isFound]; rfl)))
  labels := by
    intro other found isFound
    rw [touches.lookup] at isFound
    split_ifs at isFound with same
    · exact same ▸ (own found isFound).2
    · exact labelled.labels other found isFound
  counted := by
    have balance := touches.counted
    have before := labelled.counted
    change session.activeStreams = session.streams.keys.length
    omega

theorem Labelled.same (labelled : io.Labelled) {io' : SessionIo (Int × Label)}
    (streams : io'.session.streams = io.session.streams)
    (active : io'.session.activeStreams = io.session.activeStreams)
    (issued : io'.env.issued = io.env.issued) : io'.Labelled where
  issued := by
    rw [streams, issued]
    exact labelled.issued
  labels := by
    rw [streams]
    exact labelled.labels
  counted := by
    rw [streams, active]
    exact labelled.counted

/-- A submission is refused, or registers a stream under a new id. -/
theorem Labelled.submit (platform : Platform) (labelled : io.Labelled) (headers : HeaderList)
    (body : Bytes) (hooks : StreamHooks (Int × Label)) :
    let submitted := (io.submitUnaryRequest platform headers body hooks).2
    let streamId := io.nextStreamId platform headers body
    (streamId = -1 ∧ submitted.session.streams = io.session.streams ∧
      submitted.session.activeStreams = io.session.activeStreams ∧
      submitted.env.issued = io.env.issued) ∨
    (0 ≤ streamId ∧ streamId ∉ io.env.issued ∧
      submitted.env.issued = io.env.issued ++ [streamId] ∧
      Http2Session.Touches io.session streamId (some { hooks := hooks, body := body })
        submitted.session) := by
  obtain ⟨refusedIssued, acceptedIssued⟩ := submitRequest_issued io.env headers body
  unfold nextStreamId submitUnaryRequest
  simp only
  split_ifs with noSession draining refused
  · exact .inl ⟨rfl, rfl, rfl, rfl⟩
  · exact .inl ⟨rfl, rfl, rfl, rfl⟩
  · exact .inl ⟨rfl, rfl, rfl, refusedIssued refused⟩
  · obtain ⟨isNew, issued⟩ := acceptedIssued (Int.not_lt.mp refused)
    exact .inr ⟨Int.not_lt.mp refused, isNew, issued, Http2Session.touches_register
      (fun member => isNew (labelled.issued _ member)) _⟩

theorem Labelled.handle_submit (platform : Platform) (labelled : io.Labelled)
    (headers : HeaderList) (body : Bytes) (hooks : StreamHooks Label) :
    let event : SessionEvent Label := .submit headers body hooks
    (io.handle platform event).2.Labelled ∧
      ∀ streamId,
        ((io.handle platform event).2.session.streams.lookup streamId,
          HookCall.ofStream streamId (io.handle platform event).1) =
        StreamStep.followAll streamId (io.session.streams.lookup streamId)
          (io.project platform streamId event) := by
  simp only [SessionIo.handle, SessionIo.project]
  rcases labelled.submit platform headers body
      (hooks.label (io.nextStreamId platform headers body)) with
    ⟨refused, streams, active, issued⟩ | ⟨accepted, isNew, issued, touches⟩
  · refine ⟨labelled.same streams active issued, fun streamId => ?_⟩
    have elsewhere : ¬ (io.nextStreamId platform headers body = streamId ∧
        0 ≤ streamId) := by
      rintro ⟨same, nonnegative⟩
      omega
    rw [if_neg elsewhere, streams]
    rfl
  · refine ⟨labelled.touched touches ?_ ?_, fun streamId => ?_⟩
    · intro other known
      rw [issued]
      exact List.mem_append_left _ known
    · rintro touched ⟨⟩
      rw [issued]
      exact ⟨by simp, hooks, rfl⟩
    · rw [touches.lookup]
      split_ifs with own its its
      · rw [own]
        rfl
      · exact absurd ⟨own.symm, own ▸ accepted⟩ its
      · exact absurd its.1.symm own
      · rfl

/-- A callback reaches the stream it names, if that is registered. -/
theorem Labelled.handle_callback (platform : Platform) (labelled : io.Labelled)
    (callback : NgCallback) :
    let event : SessionEvent Label := .callback callback
    (io.handle platform event).2.Labelled ∧
      ∀ streamId,
        ((io.handle platform event).2.session.streams.lookup streamId,
          HookCall.ofStream streamId (io.handle platform event).1) =
        StreamStep.followAll streamId (io.session.streams.lookup streamId)
          (io.project platform streamId event) := by
  simp only [SessionIo.handle, SessionIo.project]
  cases carries : callback.streamId? with
  | none =>
      obtain ⟨streams, active, shared⟩ := io.session.callback_of_shared carries
      refine ⟨labelled.same streams active rfl, fun streamId => ?_⟩
      rw [if_neg nofun, streams, HookCall.ofStream_shared shared]
      rfl
  | some owner =>
      cases found : io.session.streams.lookup owner with
      | none =>
          rw [Http2Session.callback_of_unknown carries found]
          refine ⟨labelled, fun streamId => ?_⟩
          split_ifs with same
          · cases same
            rw [found]
            rfl
          · rfl
      | some stream =>
          obtain ⟨hooks, label⟩ := labelled.labels owner stream found
          obtain ⟨calls, touches⟩ :=
            Http2Session.callback_of_registered carries found
          have known : owner ∈ io.env.issued :=
            labelled.issued owner (AList.lookup_isSome.mp (by rw [found]; rfl))
          refine ⟨labelled.touched touches (fun _ => id) ?_, fun streamId => ?_⟩
          · intro touched next
            exact ⟨known, hooks, (Http2Session.Stream.callback_hooks next).trans label⟩
          · rw [calls, touches.lookup, HookCall.ofStream_own
              (Http2Session.Stream.callback_streamId label)]
            split_ifs with same its its
            · rw [same, found]
              simp [StreamStep.followAll, StreamStep.follow]
            · exact absurd (congrArg some same.symm) its
            · exact absurd (Option.some.inj its).symm same
            · rfl

/-- One event keeps the labels, and is to each stream what its projection
says. -/
theorem Labelled.handle (platform : Platform) (labelled : io.Labelled)
    (event : SessionEvent Label) :
    (io.handle platform event).2.Labelled ∧
      ∀ streamId,
        ((io.handle platform event).2.session.streams.lookup streamId,
          HookCall.ofStream streamId (io.handle platform event).1) =
        StreamStep.followAll streamId (io.session.streams.lookup streamId)
          (io.project platform streamId event) := by
  cases event with
  | submit headers body hooks => exact labelled.handle_submit platform headers body hooks
  | callback callback => exact labelled.handle_callback platform callback

end SessionIo

namespace StreamStep

variable {streamId : Int}

theorem followAll_append (stream : Option (Http2Session.Stream (Int × Label)))
    (first second : List (StreamStep Label)) :
    followAll streamId stream (first ++ second) =
      ((followAll streamId (followAll streamId stream first).1 second).1,
        (followAll streamId stream first).2 ++
          (followAll streamId (followAll streamId stream first).1 second).2) := by
  induction first generalizing stream with
  | nil => rfl
  | cons step steps ih =>
      simp only [List.cons_append, followAll, ih, List.append_assoc]

theorem followAll_none {history : List (StreamStep Label)}
    (callbacks : ∀ step ∈ history, ∃ event, step = .callback event) :
    followAll streamId none history = (none, []) := by
  induction history with
  | nil => rfl
  | cons step steps ih =>
      obtain ⟨event, rfl⟩ := callbacks step List.mem_cons_self
      have rest := ih fun later member => callbacks later (List.mem_cons_of_mem _ member)
      simp [followAll, follow, rest]

theorem headersSince_concat (history : List (StreamStep Label))
    (step : StreamStep Label) :
    headersSince (history ++ [step]) =
      if step.startsBlock then [] else headersSince history ++ step.header?.toList := by
  unfold headersSince
  rw [List.reverse_append, List.reverse_singleton, List.singleton_append,
    List.takeWhile_cons]
  cases step.startsBlock with
  | true => rfl
  | false =>
      have last : [step].filterMap header? = step.header?.toList := by
        cases found : step.header? <;> simp [found]
      simp only [Bool.not_false, if_true, List.reverse_cons, List.filterMap_append,
        last, Bool.false_eq_true, if_false]

/-- A registered stream holds the headers since its last HEADERS frame. -/
theorem followAll_pendingHeaders {history : List (StreamStep Label)}
    {stream : Http2Session.Stream (Int × Label)}
    (here : (followAll streamId none history).1 = some stream) :
    stream.pendingHeaders = headersSince history := by
  induction history using List.reverseRecOn generalizing stream with
  | nil => cases here
  | append_singleton history step ih =>
      rw [followAll_append] at here
      rw [headersSince_concat]
      simp only [followAll] at here
      cases step with
      | submitted hooks body =>
          cases here
          rfl
      | callback event =>
          cases before : (followAll streamId none history).1 with
          | none =>
              rw [before] at here
              cases here
          | some earlier =>
              have known := ih before
              rw [before] at here
              simp only [follow] at here
              cases event with
              | onFrameRecv frame =>
                  cases frame <;> cases here
                  · rfl
                  all_goals simp [known, startsBlock, header?]
              | onHeader headersFrame =>
                  cases headersFrame <;> cases here <;>
                    simp [known, startsBlock, header?]
              | onDataChunkRecv =>
                  cases here
                  simp [known, startsBlock, header?]
              | onStreamClose => cases here
              | dataSourceRead =>
                  cases here
                  simp [known, startsBlock, header?, Http2Session.Stream.dataSourceRead]

end StreamStep

namespace SessionIo

variable {platform : Platform} {io : SessionIo (Int × Label)}

/-- A run is to each stream what its projection says. -/
theorem Labelled.handleAll (platform : Platform) (labelled : io.Labelled)
    (events : List (SessionEvent Label)) :
    (io.handleAll platform events).2.Labelled ∧
      ∀ streamId,
        ((io.handleAll platform events).2.session.streams.lookup streamId,
          HookCall.ofStream streamId (io.handleAll platform events).1) =
        StreamStep.followAll streamId (io.session.streams.lookup streamId)
          (io.projectAll platform streamId events) := by
  induction events generalizing io with
  | nil => exact ⟨labelled, fun _ => rfl⟩
  | cons event events ih =>
      obtain ⟨next, first⟩ := labelled.handle platform event
      obtain ⟨last, rest⟩ := ih next
      refine ⟨last, fun streamId => ?_⟩
      simp only [SessionIo.handleAll, SessionIo.projectAll, HookCall.ofStream_append,
        StreamStep.followAll_append, ← first streamId, ← rest streamId]

theorem Labelled.project_issued (labelled : io.Labelled) {streamId : Int}
    (issued : streamId ∈ io.env.issued) (event : SessionEvent Label) :
    streamId ∈ (io.handle platform event).2.env.issued ∧
      ∀ step ∈ io.project platform streamId event, ∃ event, step = .callback event := by
  cases event with
  | submit headers body hooks =>
      simp only [SessionIo.handle, SessionIo.project]
      rcases labelled.submit platform headers body
          (hooks.label (io.nextStreamId platform headers body)) with
        ⟨refused, _, _, same⟩ | ⟨_, isNew, more, _⟩
      · refine ⟨same ▸ issued, fun step member => ?_⟩
        split_ifs at member with own
        · omega
        · cases member
      · refine ⟨more ▸ List.mem_append_left _ issued, fun step member => ?_⟩
        split_ifs at member with own
        · exact absurd (own.1 ▸ issued) isNew
        · cases member
  | callback event =>
      refine ⟨issued, fun step member => ?_⟩
      simp only [SessionIo.project] at member
      split_ifs at member
      · exact ⟨event, List.mem_singleton.mp member⟩
      · cases member

theorem Labelled.projectAll_issued (labelled : io.Labelled) {streamId : Int}
    (issued : streamId ∈ io.env.issued) (events : List (SessionEvent Label)) :
    ∀ step ∈ io.projectAll platform streamId events,
      ∃ event, step = .callback event := by
  induction events generalizing io with
  | nil => exact nofun
  | cons event events ih =>
      obtain ⟨stillIssued, callbacks⟩ := labelled.project_issued issued event
      intro step member
      rcases List.mem_append.mp member with now | later
      · exact callbacks step now
      · exact ih (labelled.handle platform event).1 stillIssued step later

/-- An event that calls a hook of a stream is a callback for that stream. -/
theorem Labelled.handle_cases (platform : Platform) (labelled : io.Labelled)
    (streamId : Int) (event : SessionEvent Label) :
    HookCall.ofStream streamId (io.handle platform event).1 = [] ∨
      ∃ stream callback, io.session.streams.lookup streamId = some stream ∧
        HookCall.ofStream streamId (io.handle platform event).1 =
          (stream.callback callback).2 ∧
        (io.handle platform event).2.session.streams.lookup streamId =
          (stream.callback callback).1 := by
  have atMostOne : io.project platform streamId event = [] ∨
      ∃ step, io.project platform streamId event = [step] := by
    cases event <;> simp only [project] <;> split_ifs <;> simp
  obtain ⟨lookup, calls⟩ := Prod.mk.inj ((labelled.handle platform event).2 streamId)
  rw [lookup, calls]
  rcases atMostOne with none | ⟨step, one⟩
  · rw [none]
    exact .inl rfl
  · rw [one]
    simp only [StreamStep.followAll, List.append_nil]
    cases step with
    | submitted hooks body => exact .inl rfl
    | callback callback =>
        cases found : io.session.streams.lookup streamId with
        | none => exact .inl rfl
        | some stream => exact .inr ⟨stream, callback, rfl, rfl, rfl⟩

/-- An event that calls the closing hook is the stream's last, and it calls
nothing else. -/
theorem Labelled.handle_close (platform : Platform) (labelled : io.Labelled)
    (streamId : Int) (event : SessionEvent Label) :
    (HookCall.ofStream streamId (io.handle platform event).1).length ≤ 1 ∧
      ∀ call ∈ HookCall.ofStream streamId (io.handle platform event).1,
        call.IsClose → streamId ∈ io.env.issued ∧
          (io.handle platform event).2.session.streams.lookup streamId = none := by
  rcases labelled.handle_cases platform streamId event with
    nothing | ⟨stream, callback, found, calls, next⟩
  · rw [nothing]
    exact ⟨Nat.zero_le 1, nofun⟩
  · have known := labelled.issued streamId
      (AList.lookup_isSome.mp (by rw [found]; rfl))
    obtain ⟨atMostOne, closes⟩ := stream.callback_close callback
    rw [calls, next]
    exact ⟨atMostOne, fun call member isClose => ⟨known, closes call member isClose⟩⟩

/-- No hook of a stream is called after its closing hook. -/
theorem Labelled.close_last (labelled : io.Labelled) (streamId : Int)
    (events : List (SessionEvent Label)) :
    (HookCall.ofStream streamId (io.handleAll platform events).1).Pairwise
      fun earlier _ => ¬ earlier.IsClose := by
  induction events generalizing io with
  | nil => exact .nil
  | cons event events ih =>
      have next := (labelled.handle platform event).1
      obtain ⟨atMostOne, closes⟩ := labelled.handle_close platform streamId event
      simp only [SessionIo.handleAll, HookCall.ofStream_append]
      refine List.pairwise_append.mpr ⟨?_, ih next, fun call member later isLater => ?_⟩
      · generalize HookCall.ofStream streamId (io.handle platform event).1 = calls
          at atMostOne
        match calls, atMostOne with
        | [], _ => exact .nil
        | [_], _ => exact List.pairwise_singleton _ _
      · intro isClose
        obtain ⟨known, gone⟩ := closes call member isClose
        have rest := (next.handleAll platform events).2 streamId
        rw [gone, StreamStep.followAll_none (next.projectAll_issued
          (labelled.project_issued known event).1 events)] at rest
        rw [(Prod.mk.inj rest).2] at isLater
        cases isLater

end SessionIo

/-- In every run of submissions and callbacks: what the hooks of a stream are
called with depends only on what the run is to that stream; nothing comes after
its closing hook; a header list is delivered with exactly the headers since the
stream's last HEADERS frame; and the registered streams are counted. -/
theorem streams_isolated_and_close_once (platform : Platform)
    (options : Http2SessionOptions) (hooks : Http2Session.Hooks) (now : Int)
    (env : NgEnv) (events : List (SessionEvent Label)) :
    let io : SessionIo (Int × Label) := .new platform options hooks now env
    let ran := io.handleAll platform events
    (∀ streamId platform' options' hooks' now' env' events',
      let io' : SessionIo (Int × Label) := .new platform' options' hooks' now' env'
      io'.projectAll platform' streamId events' =
          io.projectAll platform streamId events →
        HookCall.ofStream streamId (io'.handleAll platform' events').1 =
          HookCall.ofStream streamId ran.1) ∧
    (∀ streamId, (HookCall.ofStream streamId ran.1).Pairwise
      fun earlier _ => ¬ earlier.IsClose) ∧
    (∀ streamId event, ∀ call ∈
        HookCall.ofStream streamId (ran.2.handle platform event).1,
      ∀ headers ∈ call.headers?,
        headers = StreamStep.headersSince (io.projectAll platform streamId events)) ∧
    ran.2.session.activeStreams = ran.2.session.streams.keys.length := by
  intro io ran
  obtain ⟨labelled, unregistered⟩ :=
    SessionIo.new_labelled Label platform options hooks now env
  obtain ⟨ranLabelled, follows⟩ := labelled.handleAll platform events
  refine ⟨?_, fun streamId => labelled.close_last streamId events, ?_,
    ranLabelled.counted⟩
  · intro streamId platform' options' hooks' now' env' events' io' same
    obtain ⟨labelled', unregistered'⟩ :=
      SessionIo.new_labelled Label platform' options' hooks' now' env'
    have follows' := (labelled'.handleAll platform' events').2 streamId
    rw [unregistered', same, ← unregistered streamId, ← follows streamId] at follows'
    exact (Prod.mk.inj follows').2
  · intro streamId event call member headers delivered
    rcases ranLabelled.handle_cases platform streamId event with
      nothing | ⟨stream, callback, found, calls, _⟩
    · rw [nothing] at member
      cases member
    · rw [calls] at member
      have here := (Prod.mk.inj (follows streamId)).1
      rw [found, unregistered] at here
      rw [stream.callback_headers callback call member headers delivered]
      exact StreamStep.followAll_pendingHeaders here.symm

end Egrpc
