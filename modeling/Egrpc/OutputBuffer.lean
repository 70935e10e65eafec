import Egrpc.Http2SessionOutput
import Egrpc.ChannelSafety

/-!
# The output buffer

`PendingOutput` collects what nghttp2 has to send into one buffer, and
`ConsumeOutput` moves an offset through it.  The bytes handed to the socket are
those that nghttp2 produced, each once and in order, whatever else is done with
the session in between; and a write that has to be repeated is repeated with the
same bytes.
-/

namespace Egrpc

def MemSend.bytes (send : MemSend) : Bytes :=
  match send.chunk with
  | .ok chunk => chunk
  | .error _ => []

/-- The operations on a session. -/
inductive SessionOp (Hook : Type)
  | submitUnaryRequest (headers : HeaderList) (body : Bytes) (hooks : StreamHooks Hook)
  | receiveBytes (now : Int) (data : Bytes)
  | checkKeepalive (now : Int)
  | terminate
  | wantWrite
  | pendingOutput
  | consumeOutput (count : Nat)

/-- The operation moves the offset into the output buffer. -/
def SessionOp.isConsume {Hook : Type} : SessionOp Hook → Bool
  | .consumeOutput _ => true
  | _ => false

/-- A session in use, and the bytes consumed so far. -/
structure OutputRun (Hook : Type) where
  io : SessionIo Hook
  consumed : Bytes := []

def OutputRun.step {Hook : Type} (platform : Platform) (run : OutputRun Hook) :
    SessionOp Hook → OutputRun Hook
  | .submitUnaryRequest headers body hooks =>
      { run with io := (run.io.submitUnaryRequest platform headers body hooks).2 }
  | .receiveBytes now data =>
      { run with io := (run.io.receiveBytes platform now data).2.2 }
  | .checkKeepalive now => { run with io := (run.io.checkKeepalive platform now).2 }
  | .terminate => { run with io := run.io.terminate }
  | .wantWrite => { run with io := run.io.wantWrite.2 }
  | .pendingOutput => { run with io := (run.io.pendingOutput platform).2.2 }
  | .consumeOutput count =>
      { io := { run.io with session := run.io.session.consumeOutput count }
        consumed := run.consumed ++ run.io.session.unsent.take count }

/-! ## Refills -/

namespace MemSend

theorem batch_append (sends : List MemSend) :
    (batch sends).1 ++ (batch sends).2 = sends := by
  induction sends with
  | nil => rfl
  | cons send sends ih =>
      rw [batch]
      split_ifs
      · rfl
      · rw [List.cons_append, ih]

/-- A refill that yields nothing was told that there is nothing. -/
theorem head_of_total_eq_zero {sends : List MemSend}
    (clean : ∀ send ∈ sends, send.Clean) (nothing : total (batch sends).1 = 0) :
    (takeAnswer {} sends).1.chunk = .ok [] := by
  cases sends with
  | nil => rfl
  | cons send sends =>
      obtain ⟨chunk, isChunk⟩ := clean send List.mem_cons_self
      have empty : send.size = 0 := by
        rw [batch] at nothing
        split_ifs at nothing with zero
        · exact zero
        · rw [total, List.map_cons, List.sum_cons] at nothing
          omega
      rw [size, isChunk] at empty
      change send.chunk = .ok []
      rw [isChunk, List.length_eq_zero_iff.mp empty]

end MemSend

namespace SessionIo

variable {Hook : Type}

theorem refill_out (platform : Platform) (sends : List MemSend)
    (clean : ∀ send ∈ sends, send.Clean) (session : Http2Session Hook) :
    (refill platform sends session).2.2.1.out =
      session.out ++ (MemSend.batch sends).1.flatMap MemSend.bytes := by
  induction sends generalizing session with
  | nil => exact (List.append_nil _).symm
  | cons send sends ih =>
      obtain ⟨chunk, isChunk⟩ := clean send List.mem_cons_self
      have same := (session.runCallbacks_sameOutput send.callbacks).out
      have size : send.size = chunk.length := by rw [MemSend.size, isChunk]
      have bytes : send.bytes = chunk := by rw [MemSend.bytes, isChunk]
      unfold refill
      simp only [isChunk]
      cases chunk with
      | nil =>
          have empty : send.size = 0 := size
          rw [MemSend.batch, if_pos empty, List.flatMap_singleton, bytes,
            List.append_nil]
          exact same
      | cons byte rest =>
          have more : send.size ≠ 0 := by simp [size]
          rw [MemSend.batch, if_neg more, List.flatMap_cons, bytes]
          simp only
          rw [ih fun other member => clean other (List.mem_cons_of_mem _ member),
            same, List.append_assoc]

/-- The output buffer and what nghttp2 will send are untouched. -/
structure SameBuffer (io io' : SessionIo Hook) : Prop where
  live : io'.session.session = io.session.session
  out : io'.session.out = io.session.out
  outConsumed : io'.session.outConsumed = io.session.outConsumed
  memSends : io'.env.memSends = io.env.memSends

theorem SameBuffer.unsent {io io' : SessionIo Hook} (same : SameBuffer io io') :
    io'.session.unsent = io.session.unsent := by
  rw [Http2Session.unsent, same.out, same.outConsumed]
  rfl

theorem submitUnaryRequest_sameBuffer (platform : Platform) (headers : HeaderList)
    (body : Bytes) (hooks : StreamHooks Hook) (io : SessionIo Hook) :
    SameBuffer io (io.submitUnaryRequest platform headers body hooks).2 := by
  have submitted : (io.env.submitRequest headers body).2.memSends = io.env.memSends := by
    unfold NgEnv.submitRequest
    simp only
    split <;> rfl
  unfold submitUnaryRequest
  simp only
  split_ifs
  · exact ⟨rfl, rfl, rfl, rfl⟩
  · exact ⟨rfl, rfl, rfl, rfl⟩
  · exact ⟨rfl, rfl, rfl, submitted⟩
  · exact ⟨rfl, rfl, rfl, submitted⟩

theorem receiveBytes_sameBuffer (platform : Platform) (now : Int) (data : Bytes)
    (io : SessionIo Hook) :
    SameBuffer io (io.receiveBytes platform now data).2.2 := by
  have noted : Http2Session.SameOutput io.session (io.session.noteRead now data) := by
    unfold Http2Session.noteRead
    split_ifs <;> exact ⟨rfl, rfl, rfl, rfl⟩
  have ran := noted.trans ((io.session.noteRead now data).runCallbacks_sameOutput
    (takeAnswer {} io.env.memRecvs).1.callbacks)
  unfold receiveBytes
  simp only
  split_ifs
  · exact ⟨rfl, rfl, rfl, rfl⟩
  · exact ⟨ran.live, ran.out, ran.outConsumed, rfl⟩
  · exact ⟨ran.live, ran.out, ran.outConsumed, rfl⟩

theorem checkKeepalive_sameBuffer (platform : Platform) (now : Int)
    (io : SessionIo Hook) : SameBuffer io (io.checkKeepalive platform now).2 := by
  unfold checkKeepalive submitPing setError
  simp only
  split_ifs <;> exact ⟨rfl, rfl, rfl, rfl⟩

theorem terminate_sameBuffer (io : SessionIo Hook) : SameBuffer io io.terminate := by
  unfold terminate
  split_ifs <;> exact ⟨rfl, rfl, rfl, rfl⟩

theorem wantWrite_sameBuffer (io : SessionIo Hook) : SameBuffer io io.wantWrite.2 := by
  unfold wantWrite
  split_ifs <;> exact ⟨rfl, rfl, rfl, rfl⟩

theorem pendingOutput_of_unsent (platform : Platform) {io : SessionIo Hook}
    (live : io.session.session = true) (left : io.session.unsent ≠ []) :
    io.pendingOutput platform = (some io.session.unsent, [], io) := by
  have more : ¬ io.session.out.length ≤ io.session.outConsumed := by
    intro done
    exact left (List.drop_eq_nil_of_le done)
  unfold pendingOutput
  rw [if_neg (by simp [live]), if_neg more]

theorem pendingOutput_ne_nil (platform : Platform) {io : SessionIo Hook} {data : Bytes}
    (offered : (io.pendingOutput platform).1 = some data) : data ≠ [] := by
  unfold pendingOutput at offered
  simp only at offered
  split_ifs at offered with dead written drained
  · cases Option.some.inj offered
    exact fun empty => drained (.inr (List.drop_eq_nil_iff.mp empty))
  · cases Option.some.inj offered
    exact fun empty => written (List.drop_eq_nil_iff.mp empty)

theorem pendingOutput_of_written (platform : Platform) {io : SessionIo Hook}
    (live : io.session.session = true) (written : io.session.unsent = []) :
    (io.pendingOutput platform).2.2 = (io.refillOutput platform).2.2 := by
  unfold pendingOutput
  rw [if_neg (by simp [live]), if_pos (List.drop_eq_nil_iff.mp written)]
  simp only
  split_ifs <;> rfl

theorem refillOutput_unsent (platform : Platform) (io : SessionIo Hook)
    (clean : ∀ send ∈ io.env.memSends, send.Clean) :
    (io.refillOutput platform).2.2.session.unsent =
      (MemSend.batch io.env.memSends).1.flatMap MemSend.bytes := by
  have consumed : (io.refillOutput platform).2.2.session.outConsumed = 0 :=
    (refill_spec platform io.env.memSends clean io.session.clearOutput).outConsumed
  rw [Http2Session.unsent, consumed, List.drop_zero]
  exact refill_out platform io.env.memSends clean io.session.clearOutput

end SessionIo

namespace OutputRun

variable {Hook : Type} {platform : Platform} {run : OutputRun Hook}

/-- An operation that neither asks for output nor consumes any. -/
theorem step_sameBuffer (run : OutputRun Hook) (platform : Platform)
    (op : SessionOp Hook) :
    op = .pendingOutput ∨ op.isConsume = true ∨
      (SessionIo.SameBuffer run.io (run.step platform op).io ∧
        (run.step platform op).consumed = run.consumed) := by
  cases op with
  | submitUnaryRequest headers body hooks =>
      exact .inr (.inr ⟨run.io.submitUnaryRequest_sameBuffer .., rfl⟩)
  | receiveBytes now data => exact .inr (.inr ⟨run.io.receiveBytes_sameBuffer .., rfl⟩)
  | checkKeepalive now => exact .inr (.inr ⟨run.io.checkKeepalive_sameBuffer .., rfl⟩)
  | terminate => exact .inr (.inr ⟨run.io.terminate_sameBuffer, rfl⟩)
  | wantWrite => exact .inr (.inr ⟨run.io.wantWrite_sameBuffer, rfl⟩)
  | pendingOutput => exact .inl rfl
  | consumeOutput count => exact .inr (.inl rfl)

/-- What was consumed and what is left are the bytes that nghttp2 has produced
out of all that it will. -/
structure Exact (sends : List MemSend) (run : OutputRun Hook) : Prop where
  produced : ∃ used, sends = used ++ run.io.env.memSends ∧
    run.consumed ++ run.io.session.unsent = used.flatMap MemSend.bytes
  dead : run.io.session.session = false → run.io.session.unsent = []

theorem exact_new (platform : Platform) (options : Http2SessionOptions)
    (hooks : Http2Session.Hooks) (now : Int) (env : NgEnv) :
    Exact env.memSends
      { io := SessionIo.new platform options hooks now env : OutputRun Hook } := by
  have same : (SessionIo.new platform options hooks now env : SessionIo Hook).env.memSends
      = env.memSends ∧ (SessionIo.new platform options hooks now env :
        SessionIo Hook).session.unsent = [] := by
    unfold SessionIo.new SessionIo.setError NgEnv.setupReturn NgEnv.log
    simp only
    split_ifs <;> exact ⟨rfl, rfl⟩
  exact ⟨⟨[], same.1.symm, same.2⟩, fun _ => same.2⟩

theorem Exact.same {sends : List MemSend} (exact : Exact sends run)
    {run' : OutputRun Hook} (same : SessionIo.SameBuffer run.io run'.io)
    (consumed : run'.consumed = run.consumed) : Exact sends run' where
  produced := by
    rw [consumed, same.unsent, same.memSends]
    exact exact.produced
  dead := by
    rw [same.live, same.unsent]
    exact exact.dead

theorem Exact.consume {sends : List MemSend} (exact : Exact sends run) (count : Nat) :
    Exact sends (run.step platform (.consumeOutput count)) := by
  have rest : (run.io.session.consumeOutput count).unsent =
      run.io.session.unsent.drop count := by
    unfold Http2Session.consumeOutput Http2Session.unsent
    rw [List.drop_drop]
    rcases Nat.le_total (run.io.session.outConsumed + count)
        run.io.session.out.length with fits | clamped
    · rw [Nat.min_eq_left fits]
    · rw [Nat.min_eq_right clamped, List.drop_length, List.drop_eq_nil_of_le clamped]
  constructor
  · obtain ⟨used, split, produced⟩ := exact.produced
    refine ⟨used, split, ?_⟩
    change run.consumed ++ run.io.session.unsent.take count ++
      (run.io.session.consumeOutput count).unsent = _
    rw [rest, List.append_assoc, List.take_append_drop]
    exact produced
  · intro dead
    change (run.io.session.consumeOutput count).unsent = []
    rw [rest, exact.dead dead, List.drop_nil]

theorem Exact.pending {sends : List MemSend} (exact : Exact sends run)
    (clean : ∀ send ∈ sends, send.Clean) :
    Exact sends (run.step platform .pendingOutput) := by
  cases live : run.io.session.session with
  | false =>
      have same : (run.io.pendingOutput platform).2.2 = run.io := by
        rw [SessionIo.pendingOutput, if_pos live]
      change Exact sends { run with io := (run.io.pendingOutput platform).2.2 }
      rw [same]
      exact exact
  | true =>
      by_cases left : run.io.session.unsent = []
      · obtain ⟨used, split, produced⟩ := exact.produced
        have cleanRest : ∀ send ∈ run.io.env.memSends, send.Clean := fun send member =>
          clean send (split ▸ List.mem_append_right used member)
        have refilled := SessionIo.refill_spec platform run.io.env.memSends cleanRest
          run.io.session.clearOutput
        change Exact sends { run with io := (run.io.pendingOutput platform).2.2 }
        rw [SessionIo.pendingOutput_of_written platform live left]
        refine ⟨⟨used ++ (MemSend.batch run.io.env.memSends).1, ?_, ?_⟩, ?_⟩
        · have rest : (run.io.refillOutput platform).2.2.env.memSends =
              (MemSend.batch run.io.env.memSends).2 := refilled.rest
          rw [rest, List.append_assoc, MemSend.batch_append]
          exact split
        · rw [left, List.append_nil] at produced
          rw [List.flatMap_append, ← produced]
          exact congrArg (run.consumed ++ ·)
            (run.io.refillOutput_unsent platform cleanRest)
        · intro dead
          have alive : (run.io.refillOutput platform).2.2.session.session = true :=
            refilled.live.trans live
          rw [alive] at dead
          cases dead
      · change Exact sends { run with io := (run.io.pendingOutput platform).2.2 }
        rw [SessionIo.pendingOutput_of_unsent platform live left]
        exact exact

theorem Exact.step {sends : List MemSend} (exact : Exact sends run)
    (clean : ∀ send ∈ sends, send.Clean) (op : SessionOp Hook) :
    Exact sends (run.step platform op) := by
  rcases run.step_sameBuffer platform op with
    rfl | consumes | ⟨same, consumed⟩
  · exact exact.pending clean
  · cases op with
    | consumeOutput count => exact exact.consume count
    | submitUnaryRequest | receiveBytes | checkKeepalive | terminate | wantWrite
    | pendingOutput => cases consumes
  · exact exact.same same consumed

theorem Exact.after {sends : List MemSend} (exact : Exact sends run)
    (clean : ∀ send ∈ sends, send.Clean) (ops : List (SessionOp Hook)) :
    Exact sends (ops.foldl (OutputRun.step platform) run) := by
  induction ops generalizing run with
  | nil => exact exact
  | cons op ops ih => exact ih (exact.step clean op)

/-- After some bytes have been consumed, the given ones are on offer. -/
structure Offers (consumed data : Bytes) (run : OutputRun Hook) : Prop where
  live : run.io.session.session = true
  unsent : run.io.session.unsent = data
  nonempty : data ≠ []
  consumed : run.consumed = consumed

theorem Offers.pendingOutput {consumed data : Bytes} (offers : Offers consumed data run) :
    run.io.pendingOutput platform = (some data, [], run.io) := by
  have left : run.io.session.unsent ≠ [] := offers.unsent ▸ offers.nonempty
  rw [SessionIo.pendingOutput_of_unsent platform offers.live left, offers.unsent]

theorem Exact.offers {sends : List MemSend} (exact : Exact sends run)
    (clean : ∀ send ∈ sends, send.Clean) {data : Bytes}
    (offered : (run.io.pendingOutput platform).1 = some data) :
    Offers run.consumed data (run.step platform .pendingOutput) := by
  obtain ⟨used, split, _⟩ := exact.produced
  have cleanRest : ∀ send ∈ run.io.env.memSends, send.Clean := fun send member =>
    clean send (split ▸ List.mem_append_right used member)
  cases live : run.io.session.session with
  | false =>
      rw [SessionIo.pendingOutput, if_pos live] at offered
      cases offered
  | true =>
      have produced := run.io.pendingOutput_spec platform live cleanRest
      have bytes := produced.bytes
      rw [offered] at bytes
      split_ifs at bytes with nothing
      exact ⟨produced.live.trans live, (Option.some.inj bytes).symm,
        SessionIo.pendingOutput_ne_nil platform offered, rfl⟩

theorem Offers.after {consumed data : Bytes} (offers : Offers consumed data run)
    (between : List (SessionOp Hook))
    (unconsumed : ∀ op ∈ between, op.isConsume = false) :
    Offers consumed data (between.foldl (OutputRun.step platform) run) := by
  induction between generalizing run with
  | nil => exact offers
  | cons op between ih =>
      refine ih ?_ fun later member => unconsumed later (List.mem_cons_of_mem _ member)
      rcases run.step_sameBuffer platform op with
        rfl | consumes | ⟨same, kept⟩
      · change Offers consumed data { run with io := (run.io.pendingOutput platform).2.2 }
        rw [offers.pendingOutput]
        exact offers
      · rw [unconsumed op List.mem_cons_self] at consumes
        cases consumes
      · exact ⟨same.live.trans offers.live, same.unsent.trans offers.unsent,
          offers.nonempty, kept.trans offers.consumed⟩

theorem Offers.consume {consumed data : Bytes} (offers : Offers consumed data run)
    (count : Nat) :
    (run.step platform (.consumeOutput count)).consumed = consumed ++ data.take count := by
  rw [OutputRun.step, offers.consumed, offers.unsent]

/-- An empty view says that the buffer is written out and that nghttp2 has
nothing to send. -/
theorem Exact.nothing_offered {sends : List MemSend} (exact : Exact sends run)
    (clean : ∀ send ∈ sends, send.Clean)
    (none : (run.io.pendingOutput platform).1 = none) :
    run.io.session.unsent = [] ∧
      (run.io.session.session = true →
        (takeAnswer {} run.io.env.memSends).1.chunk = .ok []) := by
  obtain ⟨used, split, _⟩ := exact.produced
  have cleanRest : ∀ send ∈ run.io.env.memSends, send.Clean := fun send member =>
    clean send (split ▸ List.mem_append_right used member)
  cases live : run.io.session.session with
  | false => exact ⟨exact.dead live, nofun⟩
  | true =>
      have bytes := (run.io.pendingOutput_spec platform live cleanRest).bytes
      rw [none] at bytes
      split_ifs at bytes with nothing
      rw [MemSend.available, Nat.add_eq_zero_iff, MemSend.nextBatch] at nothing
      refine ⟨List.length_eq_zero_iff.mp nothing.1, fun _ => ?_⟩
      rw [if_pos nothing.1] at nothing
      exact MemSend.head_of_total_eq_zero cleanRest nothing.2

end OutputRun

/-- A round of `FlushOutput` whose write has to wait consumes nothing. -/
theorem World.flushRound_blocked {platform : Platform} {w : World}
    {session : Http2Session Nat} {data : Bytes} (ready : w.state = .ready)
    (present : w.h2 = some session)
    (offered : (SessionIo.pendingOutput platform ⟨session, w.ng⟩).1 = some data)
    (blocked : (TlsIo.write platform data ⟨w.sock, w.tls⟩).1.1 = .wantRead ∨
      (TlsIo.write platform data ⟨w.sock, w.tls⟩).1.1 = .wantWrite) :
    ∃ w', flushRound platform w = .leave w' ∧
      w'.h2 = some (SessionIo.pendingOutput platform ⟨session, w.ng⟩).2.2.session ∧
      w'.ng = (SessionIo.pendingOutput platform ⟨session, w.ng⟩).2.2.env := by
  have output : w.pendingOutput platform = _ := onSession_of_some present
  unfold flushRound
  rw [if_neg (not_not.mpr ready), output, offered]
  cases data with
  | nil => exact absurd rfl (SessionIo.pendingOutput_ne_nil platform offered)
  | cons byte rest =>
      simp only [afterWrite]
      rcases blocked with wants | wants
      · simp only [onSocket, withTable, withSession, wants]
        exact ⟨_, rfl, rfl, rfl⟩
      · simp only [onSocket, withTable, withSession, wants]
        exact ⟨_, rfl, rfl, rfl⟩

/-- As long as nghttp2 reports no error: the bytes consumed and the bytes left are the
chunks that nghttp2 has returned; an empty view means that nothing is left and that
nghttp2 has nothing to send; a view shows the bytes left, and consuming takes from its
front; and output that is not consumed, as when the write in `FlushOutput` has to wait,
is offered again unchanged whatever is done with the session in between. -/
theorem output_buffer_exact {Hook : Type} (platform : Platform)
    (options : Http2SessionOptions) (hooks : Http2Session.Hooks) (now : Int)
    (env : NgEnv) (clean : ∀ send ∈ env.memSends, send.Clean)
    (ops : List (SessionOp Hook)) :
    let run := ops.foldl (OutputRun.step platform)
      { io := SessionIo.new platform options hooks now env }
    (∃ used, env.memSends = used ++ run.io.env.memSends ∧
      run.consumed ++ run.io.session.unsent = used.flatMap MemSend.bytes) ∧
    ((run.io.pendingOutput platform).1 = none →
      run.io.session.unsent = [] ∧
        (run.io.session.session = true →
          (takeAnswer {} run.io.env.memSends).1.chunk = .ok [])) ∧
    (∀ data, (run.io.pendingOutput platform).1 = some data → data ≠ [] ∧
      ∀ between : List (SessionOp Hook), (∀ op ∈ between, op.isConsume = false) →
        let later := between.foldl (OutputRun.step platform)
          (run.step platform .pendingOutput)
        (later.io.pendingOutput platform).1 = some data ∧
          later.io.session.unsent = data ∧
          ∀ count, (later.step platform (.consumeOutput count)).consumed =
            run.consumed ++ data.take count) ∧
    (∀ (w : World) (session : Http2Session Nat) (data : Bytes),
      w.state = .ready → w.h2 = some session →
      (SessionIo.pendingOutput platform ⟨session, w.ng⟩).1 = some data →
      (TlsIo.write platform data ⟨w.sock, w.tls⟩).1.1 = .wantRead ∨
        (TlsIo.write platform data ⟨w.sock, w.tls⟩).1.1 = .wantWrite →
      ∃ w', World.flushRound platform w = .leave w' ∧
        w'.h2 = some
          (SessionIo.pendingOutput platform ⟨session, w.ng⟩).2.2.session ∧
        w'.ng = (SessionIo.pendingOutput platform ⟨session, w.ng⟩).2.2.env) := by
  intro run
  have exact : run.Exact env.memSends :=
    (OutputRun.exact_new platform options hooks now env).after clean ops
  refine ⟨exact.produced, exact.nothing_offered clean, ?_, ?_⟩
  · intro data offered
    have offers := exact.offers clean offered
    refine ⟨offers.nonempty, fun between unconsumed => ?_⟩
    intro later
    have still : OutputRun.Offers run.consumed data later := offers.after between unconsumed
    refine ⟨?_, still.unsent, still.consume⟩
    rw [still.pendingOutput]
  · intro w session data ready present offered blocked
    exact World.flushRound_blocked ready present offered blocked

/-- Three bytes in two chunks, of which one is written at first. -/
theorem partial_write_is_continued :
    let env : NgEnv := { memSends := [{ chunk := .ok [7, 8] }, { chunk := .ok [9] }] }
    let run := [.pendingOutput, .consumeOutput 1, .terminate].foldl
      (OutputRun.step World.silentPlatform)
      { io := SessionIo.new World.silentPlatform {} {} 0 env : OutputRun Nat }
    run.consumed = [7] ∧ (run.io.pendingOutput World.silentPlatform).1 = some [8, 9] ∧
      ∃ used, env.memSends = used ++ run.io.env.memSends ∧
        run.consumed ++ run.io.session.unsent = used.flatMap MemSend.bytes :=
  ⟨rfl, rfl, (output_buffer_exact World.silentPlatform {} {} 0 _
    (by decide) _).1⟩

end Egrpc
