import Egrpc.Http2Session

/-!
# Invariants between a session and its owner

The owner of a session keeps state of its own about the registered streams and
changes it when a hook is called.  A relation between the session and that
state survives every operation on the session once it survives three things: a
hook call for a registered stream, the unregistering of a stream together with
its closing hook, and changes to anything but the registered streams.
-/

namespace Egrpc

/-- The hook call is one that a stream with these hooks makes while it is
open. -/
inductive StreamHooks.Event {Hook : Type} (hooks : StreamHooks Hook) :
    HookCall Hook → Prop
  | responseHeaders {hook : Hook} (headers : HeaderList) (endStream : Bool)
      (isHook : hooks.onResponseHeaders = some hook) :
      hooks.Event (.responseHeaders hook headers endStream)
  | trailers {hook : Hook} (headers : HeaderList)
      (isHook : hooks.onTrailers = some hook) :
      hooks.Event (.trailers hook headers)
  | data {hook : Hook} (bytes : Bytes) (isHook : hooks.onData = some hook) :
      hooks.Event (.data hook bytes)

/-- The hook call belongs to no stream. -/
def HookCall.Shared {Hook : Type} : HookCall Hook → Prop
  | .responseHeaders _ _ _ | .trailers _ _ | .data _ _ | .close _ _ => False
  | .remoteSettings | .settingsAck | .pingAck | .goaway _ _ _ => True

/-- nghttp2 has not been asked to submit a request in between. -/
structure NgEnv.SameRequests (env env' : NgEnv) : Prop where
  issued : env'.issued = env.issued
  submitRequests : env'.submitRequests = env.submitRequests

namespace Http2Session

variable {Hook : Type}

def hooksAt (session : Http2Session Hook) (streamId : Int) :
    Option (StreamHooks Hook) :=
  (session.streams.lookup streamId).map Stream.hooks

theorem hooksAt_isSome (session : Http2Session Hook) (streamId : Int) :
    (session.hooksAt streamId).isSome = true ↔ streamId ∈ session.streams := by
  rw [hooksAt, Option.isSome_map, AList.lookup_isSome]

theorem hooksAt_of_lookup {session : Http2Session Hook} {streamId : Int}
    {stream : Stream Hook}
    (found : session.streams.lookup streamId = .some stream) :
    session.hooksAt streamId = .some stream.hooks := by
  rw [hooksAt, found, Option.map_some]

/-- Two sessions register the same streams. -/
structure SameStreams (session session' : Http2Session Hook) : Prop where
  hooksAt : ∀ streamId, session'.hooksAt streamId = session.hooksAt streamId
  count : session'.streams.keys.length = session.streams.keys.length
  activeStreams : session'.activeStreams = session.activeStreams
  live : session'.session = session.session
  options : session'.options = session.options

/-- A session has lost one stream. -/
structure Unregistered (session : Http2Session Hook) (streamId : Int)
    (session' : Http2Session Hook) : Prop where
  hooksAt : ∀ other, session'.hooksAt other =
    if other = streamId then .none else session.hooksAt other
  count : session'.streams.keys.length + 1 = session.streams.keys.length
  activeStreams : session'.activeStreams = session.activeStreams - 1
  live : session'.session = session.session
  options : session'.options = session.options

/-- A session has gained one stream. -/
structure Registered (session : Http2Session Hook) (streamId : Int)
    (hooks : StreamHooks Hook) (session' : Http2Session Hook) : Prop where
  hooksAt : ∀ other, session'.hooksAt other =
    if other = streamId then .some hooks else session.hooksAt other
  count : session'.streams.keys.length = session.streams.keys.length + 1
  activeStreams : session'.activeStreams = session.activeStreams + 1
  live : session'.session = session.session
  options : session'.options = session.options

theorem length_keys_insert_of_mem {streams : AList (fun _ : Int => Stream Hook)}
    {streamId : Int} (member : streamId ∈ streams) (stream : Stream Hook) :
    (streams.insert streamId stream).keys.length = streams.keys.length := by
  have present : streamId ∈ streams.keys := AList.mem_keys.mp member
  have positive := List.length_pos_of_mem present
  rw [AList.keys_insert, List.length_cons, List.length_erase_of_mem present]
  omega

theorem sameStreams_insert (session : Http2Session Hook) {streamId : Int}
    {stream stream' : Stream Hook}
    (found : session.streams.lookup streamId = .some stream)
    (hooks : stream'.hooks = stream.hooks) :
    SameStreams session
      { session with streams := session.streams.insert streamId stream' } where
  hooksAt := by
    intro other
    unfold Http2Session.hooksAt
    by_cases same : other = streamId
    · rw [same, AList.lookup_insert, found, Option.map_some, Option.map_some, hooks]
    · rw [AList.lookup_insert_ne same]
  count := length_keys_insert_of_mem (AList.lookup_isSome.mp (by simp [found])) _
  activeStreams := rfl
  live := rfl
  options := rfl

theorem unregistered_erase (session : Http2Session Hook) {streamId : Int}
    (member : streamId ∈ session.streams) :
    Unregistered session streamId
      { session with
        streams := session.streams.erase streamId
        activeStreams := session.activeStreams - 1 } where
  hooksAt := by
    intro other
    unfold Http2Session.hooksAt
    by_cases same : other = streamId
    · rw [same, if_pos rfl, AList.lookup_erase, Option.map_none]
    · rw [if_neg same, AList.lookup_erase_ne same]
  count := by
    have present : streamId ∈ session.streams.keys := AList.mem_keys.mp member
    have positive := List.length_pos_of_mem present
    rw [AList.keys_erase, List.length_erase_of_mem present]
    omega
  activeStreams := rfl
  live := rfl
  options := rfl

theorem registered_register (session : Http2Session Hook) {streamId : Int}
    (unknown : streamId ∉ session.streams) (stream : Stream Hook) :
    Registered session streamId stream.hooks
      (session.register streamId stream) where
  hooksAt := by
    intro other
    unfold Http2Session.hooksAt register
    rw [if_neg unknown]
    by_cases same : other = streamId
    · rw [same, if_pos rfl, AList.lookup_insert, Option.map_some]
    · rw [if_neg same, AList.lookup_insert_ne same]
  count := by
    have absent : streamId ∉ session.streams.keys :=
      fun present => unknown (AList.mem_keys.mpr present)
    unfold register
    rw [if_neg unknown, AList.keys_insert, List.length_cons, List.erase_of_not_mem absent]
  activeStreams := rfl
  live := rfl
  options := rfl

end Http2Session

/-- A relation between a session and its owner's state that every operation
other than a submission keeps. -/
structure SessionInvariant {Hook Owner : Type}
    (perform : Owner → HookCall Hook → Owner)
    (good : Http2Session Hook → Owner → Prop) : Prop where
  same : ∀ session session' owner, Http2Session.SameStreams session session' →
    good session owner → good session' owner
  event : ∀ session owner streamId hooks hookCall,
    session.hooksAt streamId = some hooks → hooks.Event hookCall →
    good session owner → good session (perform owner hookCall)
  shared : ∀ session owner hookCall, hookCall.Shared →
    good session owner → good session (perform owner hookCall)
  close : ∀ session session' owner streamId hooks errorCode,
    session.hooksAt streamId = some hooks →
    Http2Session.Unregistered session streamId session' →
    good session owner →
    good session' ((hooks.onClose.map (HookCall.close · errorCode)).toList.foldl
      perform owner)

namespace SessionInvariant

variable {Hook Owner : Type} {perform : Owner → HookCall Hook → Owner}
  {good : Http2Session Hook → Owner → Prop}

theorem of_same (invariant : SessionInvariant perform good)
    {session session' : Http2Session Hook} {owner : Owner}
    (holds : good session owner)
    (same : Http2Session.SameStreams session session') : good session' owner :=
  invariant.same _ _ _ same holds

/-- At most one hook call, made by a registered stream. -/
theorem optional_event (invariant : SessionInvariant perform good)
    {session : Http2Session Hook} {owner : Owner} {streamId : Int}
    {hooks : StreamHooks Hook} {hook : Option Hook} {call : Hook → HookCall Hook}
    (registered : session.hooksAt streamId = some hooks)
    (event : ∀ label, hook = some label → hooks.Event (call label))
    (holds : good session owner) :
    good session ((hook.map call).toList.foldl perform owner) := by
  cases hook with
  | none => exact holds
  | some label =>
      exact invariant.event _ _ _ _ _ registered (event label rfl) holds

theorem onHeadersFrame (invariant : SessionInvariant perform good)
    {session : Http2Session Hook} {owner : Owner} (streamId : Int)
    (response endStream : Bool) (holds : good session owner) :
    good (session.onHeadersFrame streamId response endStream).1
      ((session.onHeadersFrame streamId response endStream).2.foldl perform
        owner) := by
  unfold Http2Session.onHeadersFrame
  cases found : session.streams.lookup streamId with
  | none => exact holds
  | some stream =>
      have registered := Http2Session.hooksAt_of_lookup found
      refine invariant.of_same ?_ (session.sameStreams_insert found (by rfl))
      cases response with
      | true =>
          exact invariant.optional_event registered
            (fun _ isHook => .responseHeaders _ _ isHook) holds
      | false =>
          exact invariant.optional_event registered
            (fun _ isHook => .trailers _ isHook) holds

theorem onFrameRecv (invariant : SessionInvariant perform good)
    {session : Http2Session Hook} {owner : Owner} (frame : NgFrame)
    (holds : good session owner) :
    good (session.onFrameRecv frame).1
      ((session.onFrameRecv frame).2.foldl perform owner) := by
  have optional : ∀ (set : Bool) (hookCall : HookCall Hook), hookCall.Shared →
      good session ((if set then [hookCall] else []).foldl perform owner) := by
    intro set hookCall shared
    cases set with
    | false => exact holds
    | true => exact invariant.shared _ _ _ shared holds
  cases frame with
  | headers streamId response endStream =>
      exact invariant.onHeadersFrame streamId response endStream holds
  | settings ack => cases ack <;> exact optional _ _ trivial
  | ping ack =>
      cases ack with
      | false => exact holds
      | true =>
          exact invariant.of_same (optional _ .pingAck trivial)
            ⟨fun _ => rfl, rfl, rfl, rfl, rfl⟩
  | goaway errorCode lastStreamId opaqueData =>
      exact invariant.of_same
        (optional _ (.goaway errorCode lastStreamId
          (Http2Session.isTooManyPings errorCode opaqueData)) trivial)
        ⟨fun _ => rfl, rfl, rfl, rfl, rfl⟩
  | other => exact holds

theorem callback (invariant : SessionInvariant perform good)
    {session : Http2Session Hook} {owner : Owner} (event : NgCallback)
    (holds : good session owner) :
    good (session.callback event).1
      ((session.callback event).2.foldl perform owner) := by
  cases event with
  | onFrameRecv frame => exact invariant.onFrameRecv frame holds
  | onHeader headersFrame streamId name value =>
      simp only [Http2Session.callback, Http2Session.onHeader]
      split_ifs
      · exact holds
      · cases found : session.streams.lookup streamId with
        | none => exact holds
        | some stream =>
            exact invariant.of_same holds
              (session.sameStreams_insert found (by rfl))
  | onDataChunkRecv streamId data =>
      simp only [Http2Session.callback, Http2Session.onDataChunkRecv]
      cases found : session.streams.lookup streamId with
      | none => exact holds
      | some stream =>
          exact invariant.optional_event (Http2Session.hooksAt_of_lookup found)
            (fun _ isHook => .data _ isHook) holds
  | onStreamClose streamId errorCode =>
      simp only [Http2Session.callback, Http2Session.onStreamClose]
      cases found : session.streams.lookup streamId with
      | none => exact holds
      | some stream =>
          have member : streamId ∈ session.streams :=
            AList.lookup_isSome.mp (by simp [found])
          exact invariant.close session _ owner streamId stream.hooks errorCode
            (Http2Session.hooksAt_of_lookup found)
            (session.unregistered_erase member) holds
  | dataSourceRead streamId length =>
      simp only [Http2Session.callback, Http2Session.onDataSourceRead]
      cases found : session.streams.lookup streamId with
      | none => exact holds
      | some stream =>
          exact invariant.of_same holds
            (session.sameStreams_insert found (by rfl))

theorem runCallbacks (invariant : SessionInvariant perform good)
    {session : Http2Session Hook} {owner : Owner} (events : List NgCallback)
    (holds : good session owner) :
    good (session.runCallbacks events).1
      ((session.runCallbacks events).2.foldl perform owner) := by
  induction events generalizing session owner with
  | nil => exact holds
  | cons event events ih =>
      simp only [Http2Session.runCallbacks, List.foldl_append]
      exact ih (invariant.callback event holds)

/-! ## Operations -/

/-- An operation keeps the relation, and no request is submitted in it. -/
def Keeps {Answer : Type} (perform : Owner → HookCall Hook → Owner)
    (good : Http2Session Hook → Owner → Prop)
    (operation : SessionIo Hook →
      Answer × List (HookCall Hook) × SessionIo Hook) : Prop :=
  ∀ io owner, good io.session owner →
    good (operation io).2.2.session ((operation io).2.1.foldl perform owner) ∧
      NgEnv.SameRequests io.env (operation io).2.2.env

theorem refill (invariant : SessionInvariant perform good) (platform : Platform)
    (answers : List MemSend) {session : Http2Session Hook} {owner : Owner}
    (holds : good session owner) :
    good (SessionIo.refill platform answers session).2.2.1
      ((SessionIo.refill platform answers session).2.1.foldl perform owner) := by
  induction answers generalizing session owner with
  | nil => exact holds
  | cons answer answers ih =>
      have ran := invariant.runCallbacks answer.callbacks holds
      unfold SessionIo.refill
      simp only
      split
      · exact invariant.of_same ran ⟨fun _ => rfl, rfl, rfl, rfl, rfl⟩
      · exact ran
      · simp only [List.foldl_append]
        exact ih (invariant.of_same ran ⟨fun _ => rfl, rfl, rfl, rfl, rfl⟩)

theorem pendingOutput (invariant : SessionInvariant perform good)
    (platform : Platform) :
    Keeps perform good (SessionIo.pendingOutput platform) := by
  intro io owner holds
  have cleared : good io.session.clearOutput owner :=
    invariant.of_same holds ⟨fun _ => rfl, rfl, rfl, rfl, rfl⟩
  have refilled := invariant.refill platform io.env.memSends cleared
  unfold SessionIo.pendingOutput
  simp only
  split_ifs
  · exact ⟨holds, rfl, rfl⟩
  · exact ⟨refilled, rfl, rfl⟩
  · exact ⟨refilled, rfl, rfl⟩
  · exact ⟨holds, rfl, rfl⟩

theorem receiveBytes (invariant : SessionInvariant perform good)
    (platform : Platform) (now : Int) (data : Bytes) :
    Keeps perform good (SessionIo.receiveBytes platform now data) := by
  intro io owner holds
  have read : good (io.session.noteRead now data) owner := by
    unfold Http2Session.noteRead
    split_ifs
    · exact invariant.of_same holds ⟨fun _ => rfl, rfl, rfl, rfl, rfl⟩
    · exact holds
  have ran := invariant.runCallbacks
    (takeAnswer {} io.env.memRecvs).1.callbacks read
  unfold SessionIo.receiveBytes
  simp only
  split_ifs
  · exact ⟨holds, rfl, rfl⟩
  · exact ⟨invariant.of_same ran ⟨fun _ => rfl, rfl, rfl, rfl, rfl⟩, ⟨rfl, rfl⟩⟩
  · exact ⟨ran, rfl, rfl⟩

theorem quiet (invariant : SessionInvariant perform good) {Answer : Type}
    {operation : SessionIo Hook → Answer × SessionIo Hook}
    (same : ∀ io, Http2Session.SameStreams io.session (operation io).2.session ∧
      NgEnv.SameRequests io.env (operation io).2.env) :
    Keeps perform good fun io => ((operation io).1, [], (operation io).2) :=
  fun io _ holds => ⟨invariant.of_same holds (same io).1, (same io).2⟩

end SessionInvariant

namespace SessionIo

variable {Hook : Type}

theorem checkKeepalive_same (platform : Platform) (now : Int)
    (io : SessionIo Hook) :
    Http2Session.SameStreams io.session (io.checkKeepalive platform now).2.session ∧
      NgEnv.SameRequests io.env (io.checkKeepalive platform now).2.env := by
  unfold checkKeepalive submitPing setError
  simp only
  split_ifs <;> exact ⟨⟨fun _ => rfl, rfl, rfl, rfl, rfl⟩, ⟨rfl, rfl⟩⟩

theorem wantWrite_same (io : SessionIo Hook) :
    Http2Session.SameStreams io.session io.wantWrite.2.session ∧
      NgEnv.SameRequests io.env io.wantWrite.2.env := by
  unfold wantWrite
  split_ifs <;> exact ⟨⟨fun _ => rfl, rfl, rfl, rfl, rfl⟩, ⟨rfl, rfl⟩⟩

theorem terminate_same (io : SessionIo Hook) :
    Http2Session.SameStreams io.session io.terminate.session ∧
      NgEnv.SameRequests io.env io.terminate.env := by
  unfold terminate
  split_ifs <;> exact ⟨⟨fun _ => rfl, rfl, rfl, rfl, rfl⟩, ⟨rfl, rfl⟩⟩

/-- nghttp2 answers a submission with an error, or with an id it has never
issued. -/
theorem submitRequest_issued (env : NgEnv) (headers : HeaderList) (body : Bytes) :
    ((env.submitRequest headers body).1 < 0 →
      (env.submitRequest headers body).2.issued = env.issued) ∧
    (0 ≤ (env.submitRequest headers body).1 →
      (env.submitRequest headers body).1 ∉ env.issued ∧
        (env.submitRequest headers body).2.issued =
          env.issued ++ [(env.submitRequest headers body).1]) := by
  unfold NgEnv.submitRequest
  simp only
  split
  · simp [NgEnv.log, NGHTTP2_ERR_STREAM_ID_NOT_AVAILABLE]
  · rename_i answer rest requests
    constructor
    · intro refused
      have negative : ¬ 0 ≤ answer := Int.not_le.mpr refused
      simp [NgEnv.log, negative]
    · intro accepted
      have nodup := env.fresh
      have queue : env.submitRequests = answer :: rest := requests
      rw [queue, List.filter_cons_of_pos (by simpa using accepted)] at nodup
      refine ⟨?_, by simp [NgEnv.log, accepted]⟩
      intro old
      exact (List.nodup_append.mp nodup).2.2 answer old answer (by simp) rfl

/-- How a submission ends: refused with a reason, or accepted under a new
stream id. -/
theorem submitUnaryRequest_eq (platform : Platform) (headers : HeaderList)
    (body : Bytes) (hooks : StreamHooks Hook) (io : SessionIo Hook) :
    (∃ reason env, reason ≠ [] ∧ env.issued = io.env.issued ∧
      env.memSends = io.env.memSends ∧
      io.submitUnaryRequest platform headers body hooks =
        (-1, ⟨{ io.session with error := reason }, env⟩)) ∨
    ∃ streamId env, 0 ≤ streamId ∧ streamId ∉ io.env.issued ∧
      env.issued = io.env.issued ++ [streamId] ∧ env.memSends = io.env.memSends ∧
      io.submitUnaryRequest platform headers body hooks =
        (streamId,
          ⟨io.session.register streamId { hooks := hooks, body := body }, env⟩) := by
  obtain ⟨refusedIssued, acceptedIssued⟩ := submitRequest_issued io.env headers body
  have memSends : (io.env.submitRequest headers body).2.memSends = io.env.memSends := by
    unfold NgEnv.submitRequest
    simp only
    split <;> rfl
  unfold submitUnaryRequest
  simp only
  split_ifs with noSession draining refused
  · exact .inl ⟨_, _, by simp [Bytes.ofString], rfl, rfl, rfl⟩
  · exact .inl ⟨_, _, by simp [Bytes.ofString], rfl, rfl, rfl⟩
  · exact .inl ⟨_, _, by simp [Bytes.ofString], refusedIssued refused, memSends, rfl⟩
  · obtain ⟨isNew, issued⟩ := acceptedIssued (Int.not_lt.mp refused)
    exact .inr ⟨_, _, Int.not_lt.mp refused, isNew, issued, memSends, rfl⟩

/-- What a submission does to the streams, when all their ids were issued. -/
theorem submitUnaryRequest_cases (platform : Platform) (headers : HeaderList)
    (body : Bytes) (hooks : StreamHooks Hook) (io : SessionIo Hook)
    (known : ∀ streamId ∈ io.session.streams, streamId ∈ io.env.issued) :
    let submitted := io.submitUnaryRequest platform headers body hooks
    (submitted.1 = -1 ∧ submitted.2.session.error ≠ [] ∧
      submitted.2.env.issued = io.env.issued ∧
      Http2Session.SameStreams io.session submitted.2.session) ∨
    (0 ≤ submitted.1 ∧ submitted.1 ∉ io.env.issued ∧
      submitted.2.env.issued = io.env.issued ++ [submitted.1] ∧
      Http2Session.Registered io.session submitted.1 hooks
        submitted.2.session) := by
  rcases io.submitUnaryRequest_eq platform headers body hooks with
    ⟨reason, env, given, issued, _, same⟩ | ⟨streamId, env, accepted, isNew, issued, _, same⟩
  · rw [same]
    exact .inl ⟨rfl, given, issued, ⟨fun _ => rfl, rfl, rfl, rfl, rfl⟩⟩
  · rw [same]
    have unknown : streamId ∉ io.session.streams := fun member =>
      isNew (known _ member)
    exact .inr ⟨accepted, isNew, issued,
      io.session.registered_register unknown { hooks := hooks, body := body }⟩

/-- A refused submission leaves a reason and changes no stream. -/
theorem submitUnaryRequest_refused {platform : Platform} {headers : HeaderList}
    {body : Bytes} {hooks : StreamHooks Hook} {io : SessionIo Hook}
    (refused : (io.submitUnaryRequest platform headers body hooks).1 < 0) :
    (io.submitUnaryRequest platform headers body hooks).2.session.error ≠ [] ∧
      Http2Session.SameStreams io.session
        (io.submitUnaryRequest platform headers body hooks).2.session := by
  rcases io.submitUnaryRequest_eq platform headers body hooks with
    ⟨reason, env, given, _, _, same⟩ | ⟨streamId, env, accepted, _, _, _, same⟩
  · rw [same]
    exact ⟨given, ⟨fun _ => rfl, rfl, rfl, rfl, rfl⟩⟩
  · rw [same] at refused
    exact absurd accepted (Int.not_le.mpr refused)

theorem submitUnaryRequest_accepted {platform : Platform} {headers : HeaderList}
    {body : Bytes} {hooks : StreamHooks Hook} {io : SessionIo Hook}
    (accepted : 0 ≤ (io.submitUnaryRequest platform headers body hooks).1) :
    (io.submitUnaryRequest platform headers body hooks).2.session.error =
      io.session.error := by
  rcases io.submitUnaryRequest_eq platform headers body hooks with
    ⟨reason, env, _, _, _, same⟩ | ⟨streamId, env, _, _, _, _, same⟩
  · rw [same] at accepted
    have minusOne : 0 ≤ (-1 : Int) := accepted
    omega
  · rw [same]
    rfl

theorem submitUnaryRequest_frame (platform : Platform) (headers : HeaderList)
    (body : Bytes) (hooks : StreamHooks Hook) (io : SessionIo Hook) :
    let submitted := io.submitUnaryRequest platform headers body hooks
    submitted.2.session.options = io.session.options ∧
      submitted.2.session.session = io.session.session ∧
      submitted.2.session.out = io.session.out ∧
      submitted.2.session.outConsumed = io.session.outConsumed ∧
      submitted.2.env.memSends = io.env.memSends := by
  rcases io.submitUnaryRequest_eq platform headers body hooks with
    ⟨reason, env, _, _, memSends, same⟩ | ⟨streamId, env, _, _, _, memSends, same⟩
  · rw [same]
    exact ⟨rfl, rfl, rfl, rfl, memSends⟩
  · rw [same]
    exact ⟨rfl, rfl, rfl, rfl, memSends⟩

end SessionIo

end Egrpc
