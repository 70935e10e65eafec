import Egrpc.CallStateVerdict
import Egrpc.ChannelProcess

/-!
# From the request to the peer's scanner

`UnaryCall` frames the request, nghttp2 reads the framed body out in pieces of
its own choosing, and a scanner at the other end reassembles them.  The framed
body is the encoding of an intact message, so whatever the pieces are on either
side, the scanner yields the request and nothing else.
-/

namespace Egrpc

/-! ## The framed body -/

theorem appendGrpcFramePrefix_eq {payloadLen : Nat} (bounded : payloadLen < 2 ^ 32)
    (out : Bytes) :
    appendGrpcFramePrefix payloadLen out =
      out ++ 0 :: Bytes.bigEndian32 payloadLen := by
  have digit : ∀ word : Nat, UInt8.ofNat (word &&& 0xff) = UInt8.ofNat word := by
    intro word
    have masked : word &&& 0xff = word % 256 := Nat.and_two_pow_sub_one_eq_mod word 8
    apply UInt8.toNat_inj.mp
    rw [UInt8.toNat_ofNat', UInt8.toNat_ofNat', masked]
    omega
  simp only [appendGrpcFramePrefix, Bytes.bigEndian32, Nat.mod_eq_of_lt bounded,
    digit, Nat.shiftRight_eq_div_pow]

theorem UnaryCallArguments.framedBody_of_check {config : ChannelConfig} {call : Nat}
    {arguments : UnaryCallArguments} {pc : PendingCall}
    (posted : arguments.check config call = .post pc)
    (bounded : arguments.request.length < 2 ^ 32) :
    pc.framedBody = Frame.encode arguments.request := by
  rw [UnaryCallArguments.eq_of_check posted]
  simp only [appendGrpcFramePrefix_eq bounded, Frame.encode, List.nil_append,
    List.cons_append]

theorem UnaryCallArguments.exists_post (config : ChannelConfig) (call : Nat)
    (arguments : UnaryCallArguments)
    (fits : arguments.request.length ≤ config.options.maxSendMessageSize) :
    ∃ pc, arguments.check config call = .post pc := by
  rcases arguments.check_spec config call with ⟨above, -⟩ | ⟨-, posts⟩
  · exact absurd above (not_lt.mpr fits)
  · exact ⟨_, posts⟩

/-- The length field holds the request's length in 32 bits. -/
theorem UnaryCallArguments.lengthField_of_check {config : ChannelConfig} {call : Nat}
    {arguments : UnaryCallArguments} {pc : PendingCall}
    (posted : arguments.check config call = .post pc) :
    readBigEndian32 (pc.framedBody.drop 1) = arguments.request.length % 2 ^ 32 ∧
      (pc.framedBody.drop 5).length = arguments.request.length := by
  have narrowed : appendGrpcFramePrefix arguments.request.length [] =
      0 :: Bytes.bigEndian32 (arguments.request.length % 2 ^ 32) := by
    have bounded := Nat.mod_lt arguments.request.length (show 0 < 2 ^ 32 by decide)
    rw [← List.nil_append (0 :: _), ← appendGrpcFramePrefix_eq bounded, appendGrpcFramePrefix,
      appendGrpcFramePrefix, Nat.mod_mod]
  rw [UnaryCallArguments.eq_of_check posted]
  simp only [narrowed]
  refine ⟨?_, rfl⟩
  exact (readBigEndian32_digits _ _ _ _ _).trans
    (Bytes.bigEndian32_digits (Nat.mod_lt _ (by decide)))

/-! ## Reading the body out -/

namespace Http2Session.Stream

variable {Hook : Type}

/-- The reads nghttp2 makes for a stream, given the buffer lengths it would use:
the bytes and the EOF flag of each.  It does not ask again after EOF. -/
def readOut (stream : Stream Hook) : List Nat → List (Bytes × Bool)
  | [] => []
  | length :: lengths =>
      let read := stream.dataSourceRead length
      (read.1, read.2.1) :: if read.2.1 then [] else read.2.2.readOut lengths

def unread (stream : Stream Hook) : Bytes :=
  stream.body.drop stream.bodyOffset

/-- A read takes bytes off the front, and reports EOF when none are left. -/
theorem dataSourceRead_spec (stream : Stream Hook) (length : Nat)
    (within : stream.bodyOffset ≤ stream.body.length) :
    (stream.dataSourceRead length).1 = stream.unread.take length ∧
      ((stream.dataSourceRead length).2.1 = true ↔
        stream.unread.length ≤ length) ∧
      (stream.dataSourceRead length).2.2.unread = stream.unread.drop length ∧
      (stream.dataSourceRead length).2.2.bodyOffset ≤
        (stream.dataSourceRead length).2.2.body.length := by
  have remaining : stream.unread.length = stream.body.length - stream.bodyOffset :=
    List.length_drop
  simp only [dataSourceRead, decide_eq_true_eq, ← remaining]
  refine ⟨List.take_eq_take_min.symm, ?_, ?_, ?_⟩
  · omega
  · rw [unread, ← List.drop_drop]
    exact List.drop_eq_drop_min.symm
  · omega

/-- Too few reads deliver a part of the body and no EOF. -/
theorem readOut_short (stream : Stream Hook) (lengths : List Nat)
    (within : stream.bodyOffset ≤ stream.body.length)
    (short : lengths.sum < stream.unread.length) :
    (∀ read ∈ stream.readOut lengths, read.2 = false) ∧
      ((stream.readOut lengths).map Prod.fst).flatten =
        stream.unread.take lengths.sum := by
  induction lengths generalizing stream with
  | nil => simp [readOut]
  | cons length lengths ih =>
      obtain ⟨chunkEq, eofIff, restEq, restWithin⟩ :=
        stream.dataSourceRead_spec length within
      rw [List.sum_cons] at short ⊢
      have more : (stream.dataSourceRead length).2.1 = false := by
        rw [← Bool.not_eq_true, eofIff]
        omega
      obtain ⟨noEof, chunks⟩ := ih (stream.dataSourceRead length).2.2 restWithin
        (by rw [restEq, List.length_drop]; omega)
      simp only [readOut, more, Bool.false_eq_true, if_false, List.forall_mem_cons,
        List.map_cons, List.flatten_cons, chunkEq, chunks, restEq, List.take_add]
      exact ⟨⟨trivial, noEof⟩, trivial⟩

/-- Enough reads deliver the body, and EOF with its last byte only. -/
theorem readOut_enough (stream : Stream Hook) (lengths : List Nat)
    (within : stream.bodyOffset ≤ stream.body.length)
    (nonempty : stream.unread ≠ []) (positive : ∀ length ∈ lengths, 0 < length)
    (enough : stream.unread.length ≤ lengths.sum) :
    (∃ earlier last, stream.readOut lengths = earlier ++ [(last, true)] ∧
        last ≠ [] ∧ ∀ read ∈ earlier, read.2 = false) ∧
      ((stream.readOut lengths).map Prod.fst).flatten = stream.unread := by
  induction lengths generalizing stream with
  | nil => exact absurd (List.eq_nil_of_length_eq_zero (by simpa using enough)) nonempty
  | cons length lengths ih =>
      obtain ⟨chunkEq, eofIff, restEq, restWithin⟩ :=
        stream.dataSourceRead_spec length within
      obtain ⟨lengthPos, positive⟩ := List.forall_mem_cons.mp positive
      cases eof : (stream.dataSourceRead length).2.1 with
      | true =>
          have whole : (stream.dataSourceRead length).1 = stream.unread :=
            chunkEq.trans (List.take_of_length_le (eofIff.mp eof))
          simp only [readOut, eof, if_true, whole]
          exact ⟨⟨[], stream.unread, rfl, nonempty, by simp⟩, by simp⟩
      | false =>
          have more : length < stream.unread.length := by
            rw [← Bool.not_eq_true, eofIff] at eof
            omega
          rw [List.sum_cons] at enough
          obtain ⟨⟨earlier, last, readsEq, delivers, noEof⟩, chunks⟩ :=
            ih (stream.dataSourceRead length).2.2 restWithin
              (by rw [restEq]; simpa using more) positive
              (by rw [restEq, List.length_drop]; omega)
          simp only [readOut, eof, Bool.false_eq_true, if_false]
          refine ⟨⟨((stream.dataSourceRead length).1, false) :: earlier, last, ?_,
            delivers, ?_⟩, ?_⟩
          · rw [readsEq, List.cons_append]
          · simpa using noEof
          · rw [List.map_cons, List.flatten_cons, chunks, chunkEq, restEq,
              List.take_append_drop]

end Http2Session.Stream

/-! ## Scanning what was sent -/

/-- However an intact message is cut and whenever messages are asked for, the
scanner yields it and nothing else. -/
theorem IntactMessage.scanned {maxMessageSize : Nat} {bytes payload : Bytes}
    (intact : IntactMessage maxMessageSize bytes payload) (ops : List ScannerOp)
    (fed : fedBytes ops = bytes) :
    let run := (GrpcMessageScanner.new maxMessageSize).performAll ops
    .fed false ∉ run.1 ∧ run.2.failed = false ∧
      takenMessages run.1 ++ run.2.takeAll.1 = [payload] ∧
      run.2.takeAll.2.failed = false ∧
      run.2.takeAll.2.hasPartialMessage = false := by
  intro run
  obtain ⟨clean, -, complete⟩ := exists_intactMessage_iff.mp ⟨payload, intact⟩
  obtain ⟨more, taken, scanned⟩ := (Scanned.new maxMessageSize).performAll ops
  rw [List.nil_append, List.nil_append, fed] at scanned
  have healthy : run.2.failed = false := by
    rw [← Bool.not_eq_true]
    intro failed
    obtain ⟨pre, found, -⟩ := scanned.poisoned failed
    rw [clean] at found
    cases found
  obtain ⟨-, framesEq, restEq⟩ := scanned.healthy healthy
  obtain ⟨drained, unconsumedEq, stillHealthy, -⟩ :=
    GrpcMessageScanner.takeAll_spec healthy
  refine ⟨?_, healthy, ?_, stillHealthy, ?_⟩
  · intro refused
    have failed := (GrpcMessageScanner.performAll_failed_iff _ ops).mpr (.inr refused)
    exact absurd (healthy.symm.trans failed) Bool.false_ne_true
  · rw [taken, drained, ← List.map_append, ← framesEq, intact.parseFrames_eq]
    rfl
  · rw [← Bool.not_eq_true, GrpcMessageScanner.hasPartialMessage_iff, unconsumedEq,
      ← restEq, complete]
    exact fun impossible => impossible rfl

/-- The send path and the receive path agree.  The framed body of a call is read
out in chunks of any sizes, with EOF on the last byte alone, and a scanner fed
those bytes in any other pieces yields the request and nothing else. -/
theorem request_survives_framing {Hook : Type} (config : ChannelConfig) (call : Nat)
    (arguments : UnaryCallArguments) (pc : PendingCall) (hooks : StreamHooks Hook)
    (lengths : List Nat)
    (posted : arguments.check config call = .post pc)
    (bounded : arguments.request.length < 2 ^ 32)
    (positive : ∀ length ∈ lengths, 0 < length) :
    let stream : Http2Session.Stream Hook := { hooks := hooks, body := pc.framedBody }
    let reads := stream.readOut lengths
    let chunks := reads.map Prod.fst
    (lengths.sum < pc.framedBody.length →
      (∀ read ∈ reads, read.2 = false) ∧ chunks.flatten <+: pc.framedBody) ∧
    (pc.framedBody.length ≤ lengths.sum →
      chunks.flatten = pc.framedBody ∧
      (∃ earlier last, reads = earlier ++ [(last, true)] ∧ last ≠ [] ∧
        ∀ read ∈ earlier, read.2 = false) ∧
      ∀ maxMessageSize ops, arguments.request.length ≤ maxMessageSize →
        fedBytes ops = chunks.flatten →
        let run := (GrpcMessageScanner.new maxMessageSize).performAll ops
        .fed false ∉ run.1 ∧ run.2.failed = false ∧
          takenMessages run.1 ++ run.2.takeAll.1 = [arguments.request] ∧
          run.2.takeAll.2.failed = false ∧
          run.2.takeAll.2.hasPartialMessage = false) := by
  intro stream reads chunks
  have framed := UnaryCallArguments.framedBody_of_check posted bounded
  have unreadEq : stream.unread = pc.framedBody := List.drop_zero
  have within : stream.bodyOffset ≤ stream.body.length := Nat.zero_le _
  refine ⟨fun short => ?_, fun enough => ?_⟩
  · obtain ⟨noEof, chunksEq⟩ :=
      stream.readOut_short lengths within (unreadEq.symm ▸ short)
    refine ⟨noEof, ?_⟩
    rw [chunksEq, unreadEq]
    exact List.take_prefix _ _
  · have nonempty : stream.unread ≠ [] := by
      rw [unreadEq, framed]
      exact List.cons_ne_nil _ _
    obtain ⟨eof, chunksEq⟩ :=
      stream.readOut_enough lengths within nonempty positive (unreadEq.symm ▸ enough)
    rw [unreadEq] at chunksEq
    refine ⟨chunksEq, eof, ?_⟩
    intro maxMessageSize ops fits fed
    exact IntactMessage.scanned ⟨chunksEq.trans framed, bounded, fits⟩ ops fed

/-- A request of two bytes, sent in three reads of at most three bytes. -/
theorem two_bytes_survive_framing :
    let stream : Http2Session.Stream Nat :=
      { hooks := {}, body := appendGrpcFramePrefix 2 [] ++ [7, 255] }
    let run := (GrpcMessageScanner.new 2).performAll
      [.feed [0, 0, 0, 0, 2, 7], .next, .feed [255]]
    ((stream.readOut [3, 3, 3]).map Prod.fst).flatten = [0, 0, 0, 0, 2, 7, 255] ∧
      takenMessages run.1 ++ run.2.takeAll.1 = [[7, 255]] := by
  obtain ⟨chunksEq, -, scanned⟩ := (request_survives_framing
    ⟨Bytes.ofString "localhost", 443, {}, {}⟩ 0 ⟨[], [7, 255], [], none⟩
    ⟨0, [], appendGrpcFramePrefix 2 [] ++ [7, 255], [], none⟩ ({} : StreamHooks Nat)
    [3, 3, 3] rfl (by decide) (by decide)).2 (by decide)
  have fed : fedBytes [.feed [0, 0, 0, 0, 2, 7], .next, .feed [255]] =
      appendGrpcFramePrefix 2 [] ++ [7, 255] := by decide
  exact ⟨chunksEq, (scanned 2 _ (by decide) (fed.trans chunksEq.symm)).2.2.1⟩

/-! ## The length field -/

/-- The length field of an admitted request equals the number of bytes after it, and
the receiver reads the body as that one message, exactly for requests below four
gibibytes. -/
theorem framed_with_true_length_iff (config : ChannelConfig) (call : Nat)
    (arguments : UnaryCallArguments) (pc : PendingCall)
    (posted : arguments.check config call = .post pc) :
    (readBigEndian32 (pc.framedBody.drop 1) = (pc.framedBody.drop 5).length ∧
      ∀ maxMessageSize ops, arguments.request.length ≤ maxMessageSize →
        fedBytes ops = pc.framedBody →
        let run := (GrpcMessageScanner.new maxMessageSize).performAll ops
        .fed false ∉ run.1 ∧ takenMessages run.1 ++ run.2.takeAll.1 = [arguments.request] ∧
          run.2.takeAll.2.hasPartialMessage = false) ↔
      arguments.request.length < 2 ^ 32 := by
  obtain ⟨field, payload⟩ := UnaryCallArguments.lengthField_of_check posted
  constructor
  · rintro ⟨trueLength, -⟩
    rw [field, payload] at trueLength
    rw [← trueLength]
    exact Nat.mod_lt _ (by decide)
  · intro bounded
    refine ⟨?_, ?_⟩
    · rw [field, payload, Nat.mod_eq_of_lt bounded]
    · intro maxMessageSize ops fits fed
      have framed := UnaryCallArguments.framedBody_of_check posted bounded
      obtain ⟨accepted, -, messages, -, complete⟩ :=
        IntactMessage.scanned ⟨framed, bounded, fits⟩ ops fed
      exact ⟨accepted, messages, complete⟩

/-- A request of three bytes, whose frame arrives in two pieces. -/
theorem three_byte_request_framed :
    let framedBody := appendGrpcFramePrefix 3 [] ++ [7, 0, 255]
    let run := (GrpcMessageScanner.new 16).performAll
      [.feed [0, 0, 0, 0, 3, 7], .next, .feed [0, 255]]
    readBigEndian32 (framedBody.drop 1) = 3 ∧
      takenMessages run.1 ++ run.2.takeAll.1 = [[7, 0, 255]] := by
  intro framedBody run
  obtain ⟨field, scanned⟩ := (framed_with_true_length_iff
    ⟨Bytes.ofString "localhost", 443, {}, {}⟩ 4
    ⟨Bytes.ofString "/pkg.Service/Method", [7, 0, 255], [], some 1000⟩
    ⟨4, Bytes.ofString "/pkg.Service/Method", framedBody, [], some 1000⟩ rfl).mpr (by decide)
  exact ⟨field, (scanned 16 _ (by decide) (by decide)).2.1⟩

/-- Under the default options a request of four gibibytes is sent with the length
zero. -/
theorem four_gibibytes_framed_as_empty :
    ∃ pc, (⟨[], List.replicate (2 ^ 32) 0, [], none⟩ : UnaryCallArguments).check
        ⟨Bytes.ofString "localhost", 443, {}, {}⟩ 0 = .post pc ∧
      readBigEndian32 (pc.framedBody.drop 1) = 0 ∧
      (pc.framedBody.drop 5).length = 2 ^ 32 ∧
      ¬ readBigEndian32 (pc.framedBody.drop 1) = (pc.framedBody.drop 5).length := by
  -- only the length of the request matters, so the list itself is never unfolded
  have framed : ∀ request : Bytes, request.length = 2 ^ 32 →
      ∃ pc, (⟨[], request, [], none⟩ : UnaryCallArguments).check
          ⟨Bytes.ofString "localhost", 443, {}, {}⟩ 0 = .post pc ∧
        readBigEndian32 (pc.framedBody.drop 1) = 0 ∧
        (pc.framedBody.drop 5).length = 2 ^ 32 := by
    intro request size
    obtain ⟨pc, posted⟩ := UnaryCallArguments.exists_post
      ⟨Bytes.ofString "localhost", 443, {}, {}⟩ 0 ⟨[], request, [], none⟩
      (size.le.trans (by decide))
    obtain ⟨field, payload⟩ := UnaryCallArguments.lengthField_of_check posted
    refine ⟨pc, posted, field.trans ?_, payload.trans size⟩
    rw [size, Nat.mod_self]
  obtain ⟨pc, posted, field, payload⟩ := framed _ List.length_replicate
  refine ⟨pc, posted, field, payload, ?_⟩
  rw [field, payload]
  decide

end Egrpc
