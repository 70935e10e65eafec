import Egrpc.Http2SessionInvariant

/-!
# What producing output does to a session

nghttp2 produces output in chunks, and may call the session back before each of
them.  A refill of the output buffer takes chunks until one is empty.  Of all
the callbacks only the closing of a stream takes streams away, so the streams
left after a refill are those that none of the answers it used has closed.
-/

namespace Egrpc

/-! ## Callbacks -/

def NgCallback.closes (streamId : Int) : NgCallback → Bool
  | .onStreamClose closed _ => decide (closed = streamId)
  | .onFrameRecv _ | .onHeader _ _ _ _ | .onDataChunkRecv _ _
  | .dataSourceRead _ _ => false

/-- Some callback of one of the answers closes the given stream. -/
def closedBy (sends : List MemSend) (streamId : Int) : Bool :=
  sends.any fun send => send.callbacks.any (NgCallback.closes streamId)

theorem closedBy_append (sends sends' : List MemSend) (streamId : Int) :
    closedBy (sends ++ sends') streamId =
      (closedBy sends streamId || closedBy sends' streamId) :=
  List.any_append

theorem none_unless_or {Value : Type} (first second : Bool) (value : Option Value) :
    (bif second then none else bif first then none else value) =
      bif first || second then none else value := by
  cases first <;> cases second <;> rfl

namespace Http2Session

variable {Hook : Type}

/-- The session is the same apart from its streams and its keepalive and drain
flags. -/
structure SameOutput (session session' : Http2Session Hook) : Prop where
  live : session'.session = session.session
  error : session'.error = session.error
  out : session'.out = session.out
  outConsumed : session'.outConsumed = session.outConsumed

theorem SameOutput.trans {first second third : Http2Session Hook}
    (before : SameOutput first second) (after : SameOutput second third) :
    SameOutput first third where
  live := after.live.trans before.live
  error := after.error.trans before.error
  out := after.out.trans before.out
  outConsumed := after.outConsumed.trans before.outConsumed

theorem callback_sameOutput (session : Http2Session Hook) (event : NgCallback) :
    SameOutput session (session.callback event).1 := by
  cases event with
  | onFrameRecv frame =>
      cases frame with
      | headers streamId response endStream =>
          simp only [callback, onFrameRecv, onHeadersFrame]
          split <;> exact ⟨rfl, rfl, rfl, rfl⟩
      | settings ack => cases ack <;> exact ⟨rfl, rfl, rfl, rfl⟩
      | ping ack => cases ack <;> exact ⟨rfl, rfl, rfl, rfl⟩
      | goaway | other => exact ⟨rfl, rfl, rfl, rfl⟩
  | onHeader headersFrame streamId name value =>
      simp only [callback, onHeader]
      split_ifs
      · exact ⟨rfl, rfl, rfl, rfl⟩
      · split <;> exact ⟨rfl, rfl, rfl, rfl⟩
  | onDataChunkRecv streamId data => exact ⟨rfl, rfl, rfl, rfl⟩
  | onStreamClose streamId errorCode =>
      simp only [callback, onStreamClose]
      split <;> exact ⟨rfl, rfl, rfl, rfl⟩
  | dataSourceRead streamId length =>
      simp only [callback, onDataSourceRead]
      split <;> exact ⟨rfl, rfl, rfl, rfl⟩

theorem hooksAt_insert (session : Http2Session Hook) {streamId : Int}
    {stream stream' : Stream Hook}
    (found : session.streams.lookup streamId = .some stream)
    (hooks : stream'.hooks = stream.hooks) (other : Int) :
    ({ session with streams := session.streams.insert streamId stream' } :
      Http2Session Hook).hooksAt other = session.hooksAt other :=
  (session.sameStreams_insert found hooks).hooksAt other

theorem callback_hooksAt (session : Http2Session Hook) (event : NgCallback)
    (other : Int) :
    (session.callback event).1.hooksAt other =
      bif event.closes other then none else session.hooksAt other := by
  cases event with
  | onFrameRecv frame =>
      cases frame with
      | headers streamId response endStream =>
          simp only [callback, onFrameRecv, onHeadersFrame]
          split
          · rfl
          · rename_i stream found
            exact session.hooksAt_insert found (by rfl) other
      | settings ack => cases ack <;> rfl
      | ping ack => cases ack <;> rfl
      | goaway | other => rfl
  | onHeader headersFrame streamId name value =>
      simp only [callback, onHeader]
      split_ifs
      · rfl
      · split
        · rfl
        · rename_i stream found
          exact session.hooksAt_insert found (by rfl) other
  | onDataChunkRecv streamId data => rfl
  | onStreamClose streamId errorCode =>
      simp only [callback, onStreamClose, NgCallback.closes]
      split
      · rename_i missing
        by_cases same : streamId = other
        · subst same
          simp [hooksAt, missing]
        · simp [same]
      · rename_i stream found
        have member : streamId ∈ session.streams :=
          AList.lookup_isSome.mp (by simp [found])
        rw [(session.unregistered_erase member).hooksAt other]
        by_cases same : streamId = other
        · simp [same]
        · simp [same, Ne.symm same]
  | dataSourceRead streamId length =>
      simp only [callback, onDataSourceRead]
      split
      · rfl
      · rename_i stream found
        exact session.hooksAt_insert found (by rfl) other

theorem runCallbacks_sameOutput (session : Http2Session Hook)
    (events : List NgCallback) :
    SameOutput session (session.runCallbacks events).1 := by
  induction events generalizing session with
  | nil => exact ⟨rfl, rfl, rfl, rfl⟩
  | cons event events ih => exact (session.callback_sameOutput event).trans (ih _)

theorem runCallbacks_hooksAt (session : Http2Session Hook)
    (events : List NgCallback) (streamId : Int) :
    (session.runCallbacks events).1.hooksAt streamId =
      bif events.any (NgCallback.closes streamId) then none
      else session.hooksAt streamId := by
  induction events generalizing session with
  | nil => rfl
  | cons event events ih =>
      simp only [runCallbacks, List.any_cons, ih, callback_hooksAt,
        none_unless_or]

end Http2Session

/-! ## Refills -/

/-- The answer is no error. -/
def MemSend.Clean (send : MemSend) : Prop :=
  ∃ chunk, send.chunk = .ok chunk

instance : DecidablePred MemSend.Clean
  | ⟨_, .ok chunk⟩ => .isTrue ⟨chunk, rfl⟩
  | ⟨_, .error _⟩ => .isFalse nofun

def MemSend.size (send : MemSend) : Nat :=
  match send.chunk with
  | .ok chunk => chunk.length
  | .error _ => 0

/-- The answers that one refill uses, and those it leaves. -/
def MemSend.batch : List MemSend → List MemSend × List MemSend
  | [] => ([], [])
  | send :: sends =>
      if send.size = 0 then ([send], sends)
      else (send :: (batch sends).1, (batch sends).2)

def MemSend.total (sends : List MemSend) : Nat :=
  (sends.map MemSend.size).sum

/-- The answers used for the next output: none while there is output left. -/
def MemSend.nextBatch (pending : Nat) (sends : List MemSend) :
    List MemSend × List MemSend :=
  if pending = 0 then batch sends else ([], sends)

/-- How many bytes there are to write next. -/
def MemSend.available (pending : Nat) (sends : List MemSend) : Nat :=
  pending + total (nextBatch pending sends).1

theorem MemSend.mem_of_mem_batch {sends : List MemSend} {send : MemSend}
    (member : send ∈ (batch sends).2) : send ∈ sends := by
  induction sends with
  | nil => exact member
  | cons first sends ih =>
      rw [batch] at member
      split_ifs at member
      · exact List.mem_cons_of_mem _ member
      · exact List.mem_cons_of_mem _ (ih member)

theorem MemSend.mem_of_mem_nextBatch {pending : Nat} {sends : List MemSend}
    {send : MemSend} (member : send ∈ (nextBatch pending sends).2) :
    send ∈ sends := by
  unfold nextBatch at member
  split_ifs at member
  · exact mem_of_mem_batch member
  · exact member

namespace SessionIo

variable {Hook : Type}

/-- What a refill without errors does. -/
structure Refilled (sends : List MemSend) (session : Http2Session Hook)
    (filled : Bool × List (HookCall Hook) × Http2Session Hook × List MemSend) :
    Prop where
  ok : filled.1 = true
  live : filled.2.2.1.session = session.session
  error : filled.2.2.1.error = session.error
  length : filled.2.2.1.out.length =
    session.out.length + MemSend.total (MemSend.batch sends).1
  outConsumed : filled.2.2.1.outConsumed = session.outConsumed
  rest : filled.2.2.2 = (MemSend.batch sends).2
  hooksAt : ∀ streamId, filled.2.2.1.hooksAt streamId =
    bif closedBy (MemSend.batch sends).1 streamId then none
    else session.hooksAt streamId

theorem refill_spec (platform : Platform) (sends : List MemSend)
    (clean : ∀ send ∈ sends, send.Clean) (session : Http2Session Hook) :
    Refilled sends session (refill platform sends session) := by
  induction sends generalizing session with
  | nil => exact ⟨rfl, rfl, rfl, rfl, rfl, rfl, fun _ => rfl⟩
  | cons send sends ih =>
      obtain ⟨chunk, isChunk⟩ := clean send (by simp)
      have same := session.runCallbacks_sameOutput send.callbacks
      have hooks := session.runCallbacks_hooksAt send.callbacks
      have size : send.size = chunk.length := by rw [MemSend.size, isChunk]
      unfold refill
      simp only [isChunk]
      cases chunk with
      | nil =>
          have batch : MemSend.batch (send :: sends) = ([send], sends) := by
            rw [MemSend.batch, size, List.length_nil, if_pos rfl]
          exact
            { ok := rfl
              live := same.live
              error := same.error
              length := by simp [batch, MemSend.total, size, same.out]
              outConsumed := same.outConsumed
              rest := by rw [batch]
              hooksAt := by
                intro streamId
                simp [batch, closedBy, hooks streamId] }
      | cons byte bytes =>
          have batch : MemSend.batch (send :: sends) =
              (send :: (MemSend.batch sends).1, (MemSend.batch sends).2) := by
            rw [MemSend.batch, if_neg (by simp [size])]
          have rest := ih (fun other member => clean other (by simp [member]))
            { (session.runCallbacks send.callbacks).1 with
              out := (session.runCallbacks send.callbacks).1.out ++ byte :: bytes }
          exact
            { ok := rest.ok
              live := rest.live.trans same.live
              error := rest.error.trans same.error
              length := by
                rw [rest.length, batch]
                simp [MemSend.total, size, same.out]
                omega
              outConsumed := rest.outConsumed.trans same.outConsumed
              rest := by rw [rest.rest, batch]
              hooksAt := by
                intro streamId
                rw [rest.hooksAt, batch]
                change (bif _ then none else
                  (session.runCallbacks send.callbacks).1.hooksAt streamId) = _
                rw [hooks streamId]
                simp only [closedBy, List.any_cons, none_unless_or] }

/-- What asking for output without errors does. -/
structure Produced (io : SessionIo Hook)
    (output : Option Bytes × List (HookCall Hook) × SessionIo Hook) : Prop where
  bytes : output.1 =
    if MemSend.available io.session.unsent.length io.env.memSends = 0 then none
    else some output.2.2.session.unsent
  length : output.2.2.session.unsent.length =
    MemSend.available io.session.unsent.length io.env.memSends
  live : output.2.2.session.session = io.session.session
  error : output.2.2.session.error = io.session.error
  memSends : output.2.2.env.memSends =
    (MemSend.nextBatch io.session.unsent.length io.env.memSends).2
  hooksAt : ∀ streamId, output.2.2.session.hooksAt streamId =
    bif closedBy (MemSend.nextBatch io.session.unsent.length
      io.env.memSends).1 streamId then none
    else io.session.hooksAt streamId

theorem refillOutput_spec (platform : Platform) (io : SessionIo Hook)
    (written : io.session.unsent.length = 0)
    (clean : ∀ send ∈ io.env.memSends, send.Clean) :
    (io.refillOutput platform).1 = true ∧
      Produced io
        (if MemSend.available io.session.unsent.length io.env.memSends = 0 then none
          else some (io.refillOutput platform).2.2.session.unsent,
        (io.refillOutput platform).2) := by
  have filled := refill_spec platform io.env.memSends clean io.session.clearOutput
  have batch : MemSend.nextBatch io.session.unsent.length io.env.memSends =
      MemSend.batch io.env.memSends := if_pos written
  have available : MemSend.available io.session.unsent.length io.env.memSends =
      MemSend.total (MemSend.batch io.env.memSends).1 := by
    rw [MemSend.available, batch, written, Nat.zero_add]
  have length : (io.refillOutput platform).2.2.session.unsent.length =
      MemSend.total (MemSend.batch io.env.memSends).1 := by
    have consumed : (io.refillOutput platform).2.2.session.outConsumed = 0 :=
      filled.outConsumed
    have produced : (io.refillOutput platform).2.2.session.out.length =
        0 + MemSend.total (MemSend.batch io.env.memSends).1 := filled.length
    rw [Http2Session.unsent, List.length_drop, consumed, produced]
    omega
  exact ⟨filled.ok,
    { bytes := rfl
      length := length.trans available.symm
      live := filled.live
      error := filled.error
      memSends := by rw [batch]; exact filled.rest
      hooksAt := by intro streamId; rw [batch]; exact filled.hooksAt streamId }⟩

theorem pendingOutput_spec (platform : Platform) (io : SessionIo Hook)
    (live : io.session.session = true)
    (clean : ∀ send ∈ io.env.memSends, send.Clean) :
    Produced io (io.pendingOutput platform) := by
  have length : ∀ session : Http2Session Hook, session.unsent.length =
      session.out.length - session.outConsumed := fun _ => List.length_drop
  unfold pendingOutput
  rw [if_neg (by simp [live])]
  by_cases written : io.session.out.length ≤ io.session.outConsumed
  · have nothing : io.session.unsent.length = 0 := by
      rw [length]
      omega
    obtain ⟨ok, produced⟩ := refillOutput_spec platform io nothing clean
    have left := length (io.refillOutput platform).2.2.session
    rw [produced.length] at left
    rw [if_pos written]
    simp only [ok, Bool.true_eq_false, false_or]
    split_ifs with drained
    · rwa [if_pos (by omega)] at produced
    · rwa [if_neg (by omega)] at produced
  · have something : io.session.unsent.length ≠ 0 := by
      rw [length]
      omega
    have batch : MemSend.nextBatch io.session.unsent.length io.env.memSends =
        ([], io.env.memSends) := if_neg something
    have available : MemSend.available io.session.unsent.length io.env.memSends =
        io.session.unsent.length := by rw [MemSend.available, batch]; rfl
    rw [if_neg written]
    exact
      { bytes := by rw [available, if_neg something]
        length := available.symm
        live := rfl
        error := rfl
        memSends := by rw [batch]
        hooksAt := fun streamId => by rw [batch]; rfl }

end SessionIo

end Egrpc
