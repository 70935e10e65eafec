import Egrpc.MessageScanner

/-!
# The scanner computes the reference parse

However a byte string is cut into chunks and however `next` calls are placed
between them, the scanner delivers the frames of the whole string in order, and
fails exactly when some complete prefix at a frame boundary is refused.  The
link between the buffer, the read position and the position in the stream is
the relation `Scanned`, which every operation keeps.
-/

namespace Egrpc

/-! ## The reference parse under concatenation -/

theorem parseFrames_append (first second : Bytes) :
    parseFrames (first ++ second) =
      parseFrames first ++ parseFrames (incompleteFrame first ++ second) :=
  frameReader.records_append first second

theorem incompleteFrame_append (first second : Bytes) :
    incompleteFrame (first ++ second) =
      incompleteFrame (incompleteFrame first ++ second) :=
  frameReader.unread_append first second

theorem parseFrames_of_read {bytes rest : Bytes} {frame : Frame}
    (complete : Frame.read bytes = some (frame, rest)) :
    parseFrames bytes = frame :: parseFrames rest :=
  frameReader.records_of_read_eq_some complete

theorem incompleteFrame_of_read {bytes rest : Bytes} {frame : Frame}
    (complete : Frame.read bytes = some (frame, rest)) :
    incompleteFrame bytes = incompleteFrame rest :=
  frameReader.unread_of_read_eq_some complete

theorem parseFrames_of_incomplete {bytes : Bytes}
    (incomplete : Frame.read bytes = none) : parseFrames bytes = [] :=
  frameReader.records_of_read_eq_none incomplete

theorem incompleteFrame_of_incomplete {bytes : Bytes}
    (incomplete : Frame.read bytes = none) : incompleteFrame bytes = bytes :=
  frameReader.unread_of_read_eq_none incomplete

@[simp]
theorem parseFrames_nil : parseFrames [] = [] :=
  parseFrames_of_incomplete rfl

@[simp]
theorem incompleteFrame_nil : incompleteFrame [] = [] :=
  incompleteFrame_of_incomplete rfl

theorem parseFrames_incompleteFrame (bytes : Bytes) :
    parseFrames (incompleteFrame bytes) = [] :=
  parseFrames_of_incomplete (frameReader.read_unread bytes)

theorem completePrefixes_of_read {bytes rest : Bytes} {frame : Frame}
    (complete : Frame.read bytes = some (frame, rest)) :
    completePrefixes bytes = frame.framePrefix :: completePrefixes rest := by
  simp [completePrefixes, parseFrames_of_read complete,
    incompleteFrame_of_read complete]

theorem completePrefixes_of_incomplete {bytes : Bytes}
    (incomplete : Frame.read bytes = none) :
    completePrefixes bytes = (FramePrefix.read bytes).toList := by
  simp [completePrefixes, parseFrames_of_incomplete incomplete,
    incompleteFrame_of_incomplete incomplete]

theorem completePrefixes_append (first second : Bytes) :
    completePrefixes (first ++ second) =
      (parseFrames first).map Frame.framePrefix ++
        completePrefixes (incompleteFrame first ++ second) := by
  simp only [completePrefixes, parseFrames_append first second,
    incompleteFrame_append first second, List.map_append, List.append_assoc]

/-- A complete prefix at the front is the first of the complete prefixes. -/
theorem completePrefixes_of_prefix {bytes : Bytes} {pre : FramePrefix}
    (complete : FramePrefix.read bytes = some pre) :
    ∃ rest, completePrefixes bytes = pre :: rest := by
  cases readEq : Frame.read bytes with
  | none =>
      exact ⟨[], by simp [completePrefixes_of_incomplete readEq, complete]⟩
  | some pair =>
      obtain ⟨frame, rest⟩ := pair
      have samePrefix := (Frame.read_eq_some.mp readEq).1
      rw [complete, Option.some.injEq] at samePrefix
      exact ⟨completePrefixes rest, by
        rw [completePrefixes_of_read readEq, samePrefix]⟩

theorem completePrefixes_isPrefix_append (first second : Bytes) :
    completePrefixes first <+: completePrefixes (first ++ second) := by
  rw [completePrefixes_append]
  unfold completePrefixes
  rw [List.prefix_append_right_inj]
  cases prefixEq : FramePrefix.read (incompleteFrame first) with
  | none => exact List.nil_prefix
  | some pre =>
      obtain ⟨rest, prefixes⟩ :=
        completePrefixes_of_prefix (FramePrefix.read_append second prefixEq)
      unfold completePrefixes at prefixes
      exact ⟨rest, by simp [prefixes]⟩

theorem firstBadPrefix_append_of_some {maxMessageSize : Nat} {first : Bytes}
    {pre : FramePrefix} (second : Bytes)
    (found : firstBadPrefix maxMessageSize first = some pre) :
    firstBadPrefix maxMessageSize (first ++ second) = some pre := by
  obtain ⟨rest, prefixes⟩ := completePrefixes_isPrefix_append first second
  unfold firstBadPrefix at found ⊢
  rw [← prefixes, List.find?_append, found]
  rfl

/-- Frames with acceptable prefixes do not matter for the first refusal. -/
theorem firstBadPrefix_append_of_good {maxMessageSize : Nat}
    {first : Bytes} (second : Bytes)
    (good : ∀ frame ∈ parseFrames first,
      ¬ frame.framePrefix.Bad maxMessageSize) :
    firstBadPrefix maxMessageSize (first ++ second) =
      firstBadPrefix maxMessageSize (incompleteFrame first ++ second) := by
  unfold firstBadPrefix
  rw [completePrefixes_append, List.find?_append]
  have none_bad : ((parseFrames first).map Frame.framePrefix).find?
      (fun pre => decide (pre.Bad maxMessageSize)) = none := by
    simpa using good
  rw [none_bad]
  rfl

theorem good_of_firstBadPrefix_eq_none {maxMessageSize : Nat} {bytes : Bytes}
    (clean : firstBadPrefix maxMessageSize bytes = none) :
    ∀ frame ∈ parseFrames bytes, ¬ frame.framePrefix.Bad maxMessageSize := by
  intro frame member
  have noneBad := List.find?_eq_none.mp clean frame.framePrefix
    (List.mem_append_left _ (List.mem_map_of_mem member))
  simpa using noneBad

/-! ## What the operations do to the unconsumed bytes -/

/-- The text a refused prefix fails the scanner with. -/
def FramePrefix.errorText (maxMessageSize : Nat) (pre : FramePrefix) : Bytes :=
  if pre.flag = 1 then
    Bytes.ofString "compressed message received but compression is not supported"
  else if pre.flag ≠ 0 then
    Bytes.ofString "malformed gRPC message: invalid compressed flag " ++
      Bytes.decimal pre.flag.toNat
  else
    Bytes.ofString "received message of " ++ Bytes.decimal pre.length ++
      Bytes.ofString " bytes exceeds max_receive_message_size (" ++
      Bytes.decimal maxMessageSize ++ Bytes.ofString ")"

theorem FramePrefix.code_ne_ok (pre : FramePrefix) : pre.code ≠ .ok := by
  unfold FramePrefix.code
  split_ifs <;> simp

namespace GrpcMessageScanner

/-- The validation loop finds the first refused prefix of the bytes it
scans. -/
theorem validateFrom_eq {maxMessageSize : Nat} {buf : Bytes}
    {fuel offset : Nat} (enough : buf.length - offset ≤ fuel) :
    validateFrom maxMessageSize buf fuel offset =
      (firstBadPrefix maxMessageSize (buf.drop offset)).map
        fun pre => (pre.code, pre.errorText maxMessageSize) := by
  induction fuel generalizing offset with
  | zero =>
      have nothing : buf.drop offset = [] := List.drop_of_length_le (by omega)
      simp [validateFrom, nothing, firstBadPrefix, completePrefixes,
        FramePrefix.read]
  | succ fuel ih =>
      rw [validateFrom]
      by_cases short : buf.length - offset < 5
      · have prefixNone : FramePrefix.read (buf.drop offset) = none :=
          FramePrefix.read_eq_none.mpr (by simpa using short)
        have frameNone : Frame.read (buf.drop offset) = none := by
          simp [Frame.read, prefixNone]
        simp [short, firstBadPrefix, completePrefixes_of_incomplete frameNone,
          prefixNone]
      · have prefixEq := FramePrefix.read_drop (not_lt.mp short)
        obtain ⟨rest, prefixes⟩ := completePrefixes_of_prefix prefixEq
        simp only [short, if_false]
        generalize flagEq : buf.getD offset 0 = flag at prefixEq prefixes ⊢
        generalize lengthEq : readBigEndian32 (buf.drop (offset + 1)) = msgLen
          at prefixEq prefixes ⊢
        -- The three refusals, then the two ways on with an accepted prefix.
        by_cases compressed : flag = 1
        · simp [firstBadPrefix, prefixes, compressed, FramePrefix.Bad,
            FramePrefix.code, FramePrefix.errorText]
        by_cases malformed : flag = 0
        · by_cases oversize : maxMessageSize < msgLen
          · simp [firstBadPrefix, prefixes, malformed, oversize,
              FramePrefix.Bad, FramePrefix.code, FramePrefix.errorText]
          · have acceptable :
                ¬ FramePrefix.Bad maxMessageSize ⟨flag, msgLen⟩ := by
              simp [FramePrefix.Bad, malformed, oversize]
            subst malformed
            simp only [compressed, if_false, ne_eq, not_true_eq_false, oversize]
            by_cases incomplete : buf.length - offset < 5 + msgLen
            · have frameNone : Frame.read (buf.drop offset) = none := by
                simp [Frame.read, prefixEq, incomplete]
              simp [incomplete, firstBadPrefix,
                completePrefixes_of_incomplete frameNone, prefixEq, acceptable]
            · have frameSome : Frame.read (buf.drop offset) =
                  some (⟨0, ((buf.drop offset).drop 5).take msgLen⟩,
                    (buf.drop offset).drop (5 + msgLen)) := by
                simp [Frame.read, prefixEq, incomplete]
              have samePrefix := (Frame.read_eq_some.mp frameSome).1
              rw [prefixEq, Option.some.injEq] at samePrefix
              rw [if_neg incomplete, ih (by omega)]
              rw [firstBadPrefix, firstBadPrefix,
                completePrefixes_of_read frameSome, ← samePrefix,
                List.find?_cons_of_neg (by simpa using acceptable),
                List.drop_drop]
        · simp [firstBadPrefix, prefixes, compressed, malformed,
            FramePrefix.Bad, FramePrefix.code, FramePrefix.errorText]

theorem unconsumed_length (scanner : GrpcMessageScanner) :
    scanner.unconsumed.length = scanner.buf.length - scanner.pos := by
  simp [unconsumed]

theorem hasPartialMessage_iff (scanner : GrpcMessageScanner) :
    scanner.hasPartialMessage = true ↔ scanner.unconsumed ≠ [] := by
  rw [hasPartialMessage, decide_eq_true_eq, ← List.length_pos_iff_ne_nil,
    unconsumed_length]
  omega

/-- The clearing and compaction rules only drop consumed bytes. -/
theorem advance_unconsumed (scanner : GrpcMessageScanner) (msgLen : Nat)
    (within : scanner.pos + (5 + msgLen) ≤ scanner.buf.length) :
    (scanner.advance msgLen within).unconsumed =
      scanner.unconsumed.drop (5 + msgLen) := by
  unfold advance unconsumed
  simp only [List.drop_drop]
  split_ifs with atEnd compact
  · simp [atEnd]
  · simp
  · rfl

theorem advance_failed (scanner : GrpcMessageScanner) (msgLen : Nat)
    (within : scanner.pos + (5 + msgLen) ≤ scanner.buf.length) :
    (scanner.advance msgLen within).failed = scanner.failed ∧
      (scanner.advance msgLen within).maxMessageSize =
        scanner.maxMessageSize := by
  unfold advance
  simp only
  split_ifs <;> simp

theorem next_cases {scanner : GrpcMessageScanner}
    (healthy : scanner.failed = false) :
    (scanner.next = none ∧ Frame.read scanner.unconsumed = none) ∨
      ∃ frame rest, scanner.next = some (frame.payload, rest) ∧
        Frame.read scanner.unconsumed = some (frame, rest.unconsumed) ∧
        rest.failed = false ∧
        rest.maxMessageSize = scanner.maxMessageSize := by
  by_cases short : scanner.buf.length - scanner.pos < 5
  · left
    have prefixNone : FramePrefix.read scanner.unconsumed = none :=
      FramePrefix.read_eq_none.mpr (by simpa [unconsumed_length] using short)
    exact ⟨by simp [next, short], by simp [Frame.read, prefixNone]⟩
  · have prefixEq : FramePrefix.read scanner.unconsumed = _ :=
      FramePrefix.read_drop (not_lt.mp short)
    by_cases incomplete : scanner.buf.length - scanner.pos <
        5 + readBigEndian32 (scanner.buf.drop (scanner.pos + 1))
    · left
      refine ⟨by simp [next, incomplete], ?_⟩
      simp only [Frame.read, prefixEq, unconsumed_length, incomplete, if_true]
    · right
      have within : scanner.pos + (5 +
          readBigEndian32 (scanner.buf.drop (scanner.pos + 1))) ≤
            scanner.buf.length := by
        have := scanner.pos_le
        omega
      refine ⟨⟨scanner.buf.getD scanner.pos 0, (scanner.unconsumed.drop 5).take
        (readBigEndian32 (scanner.buf.drop (scanner.pos + 1)))⟩,
        scanner.advance _ within, ?_, ?_, ?_, ?_⟩
      · simp only [next, healthy, Bool.false_eq_true, if_false, short,
          incomplete, dite_false, unconsumed, List.drop_drop]
      · simp only [advance_unconsumed, Frame.read, prefixEq, unconsumed_length,
          incomplete, if_false]
      · rw [(advance_failed scanner _ within).1, healthy]
      · exact (advance_failed scanner _ within).2

theorem next_of_failed {scanner : GrpcMessageScanner}
    (failed : scanner.failed = true) : scanner.next = none := by
  simp [next, failed]

theorem feed_of_failed {scanner : GrpcMessageScanner}
    (failed : scanner.failed = true) (data : Bytes) :
    scanner.feed data = (false, scanner) := by
  simp [feed, failed]

/-- `feed` appends to the unconsumed bytes and reports their first refused
prefix. -/
theorem feed_cases {scanner : GrpcMessageScanner}
    (healthy : scanner.failed = false) (data : Bytes) :
    (firstBadPrefix scanner.maxMessageSize (scanner.unconsumed ++ data) = none ∧
      (scanner.feed data).1 = true ∧
      (scanner.feed data).2.failed = false ∧
      (scanner.feed data).2.unconsumed = scanner.unconsumed ++ data ∧
      (scanner.feed data).2.maxMessageSize = scanner.maxMessageSize) ∨
    ∃ pre, firstBadPrefix scanner.maxMessageSize
        (scanner.unconsumed ++ data) = some pre ∧
      (scanner.feed data).1 = false ∧
      (scanner.feed data).2.failed = true ∧
      (scanner.feed data).2.errorCode = pre.code ∧
      (scanner.feed data).2.error = pre.errorText scanner.maxMessageSize ∧
      (scanner.feed data).2.maxMessageSize = scanner.maxMessageSize := by
  have dropEq : (scanner.append data).buf.drop (scanner.append data).pos =
      scanner.unconsumed ++ data :=
    List.drop_append_of_le_length scanner.pos_le
  have validated : validateFrom scanner.maxMessageSize (scanner.append data).buf
      (scanner.append data).buf.length (scanner.append data).pos =
        (firstBadPrefix scanner.maxMessageSize
          (scanner.unconsumed ++ data)).map
            fun pre => (pre.code, pre.errorText scanner.maxMessageSize) := by
    rw [validateFrom_eq (Nat.sub_le _ _), dropEq]
  have sameSize : (scanner.append data).maxMessageSize =
      scanner.maxMessageSize := rfl
  simp only [feed, healthy, Bool.false_eq_true, if_false, sameSize, validated]
  cases found : firstBadPrefix scanner.maxMessageSize
      (scanner.unconsumed ++ data) with
  | none =>
      left
      exact ⟨rfl, rfl, healthy, dropEq, rfl⟩
  | some pre =>
      right
      exact ⟨pre, rfl, rfl, rfl, rfl, rfl, rfl⟩

end GrpcMessageScanner

/-! ## The position in the stream -/

/-- The scanner has been fed `bytes` and has handed out `delivered`.  While it
is healthy, what it has not consumed is what the parse of `bytes` has after the
delivered frames.  Once it has failed, it reports the first refused prefix. -/
structure Scanned (maxMessageSize : Nat) (bytes : Bytes)
    (delivered : List Frame) (scanner : GrpcMessageScanner) : Prop where
  size : scanner.maxMessageSize = maxMessageSize
  ahead : delivered <+: parseFrames bytes
  acceptable : ∀ frame ∈ delivered, ¬ frame.framePrefix.Bad maxMessageSize
  healthy : scanner.failed = false →
    firstBadPrefix maxMessageSize bytes = none ∧
      parseFrames bytes = delivered ++ parseFrames scanner.unconsumed ∧
      incompleteFrame bytes = incompleteFrame scanner.unconsumed
  poisoned : scanner.failed = true →
    ∃ pre, firstBadPrefix maxMessageSize bytes = some pre ∧
      scanner.errorCode = pre.code ∧
      scanner.error = pre.errorText maxMessageSize

namespace Scanned

variable {maxMessageSize : Nat} {bytes : Bytes} {delivered : List Frame}
  {scanner : GrpcMessageScanner}

theorem new (maxMessageSize : Nat) :
    Scanned maxMessageSize [] [] (GrpcMessageScanner.new maxMessageSize) where
  size := rfl
  ahead := List.nil_prefix
  acceptable := by simp
  healthy := by
    intro _
    exact ⟨rfl, rfl, rfl⟩
  poisoned := by
    intro failed
    cases failed

/-- Later bytes continue the stream where a healthy scanner stands: neither the
delivered frames nor the buffered complete ones matter for the first refusal. -/
theorem append_of_healthy
    (scanned : Scanned maxMessageSize bytes delivered scanner)
    (status : scanner.failed = false) (data : Bytes) :
    firstBadPrefix maxMessageSize (bytes ++ data) =
        firstBadPrefix maxMessageSize (scanner.unconsumed ++ data) ∧
      parseFrames (bytes ++ data) =
        delivered ++ parseFrames (scanner.unconsumed ++ data) ∧
      incompleteFrame (bytes ++ data) =
        incompleteFrame (scanner.unconsumed ++ data) := by
  obtain ⟨clean, framesEq, restEq⟩ := scanned.healthy status
  have allGood := good_of_firstBadPrefix_eq_none clean
  have bufferedGood : ∀ frame ∈ parseFrames scanner.unconsumed,
      ¬ frame.framePrefix.Bad maxMessageSize := by
    intro frame member
    apply allGood
    rw [framesEq]
    exact List.mem_append_right _ member
  refine ⟨?_, ?_, ?_⟩
  · rw [firstBadPrefix_append_of_good data allGood, restEq,
      ← firstBadPrefix_append_of_good data bufferedGood]
  · rw [parseFrames_append, framesEq, restEq, List.append_assoc,
      ← parseFrames_append]
  · rw [incompleteFrame_append, restEq, ← incompleteFrame_append]

theorem feed (scanned : Scanned maxMessageSize bytes delivered scanner)
    (data : Bytes) :
    Scanned maxMessageSize (bytes ++ data) delivered
      (scanner.feed data).2 := by
  have ahead : delivered <+: parseFrames (bytes ++ data) := by
    rw [parseFrames_append]
    exact scanned.ahead.trans (List.prefix_append _ _)
  cases status : scanner.failed with
  | true =>
      obtain ⟨pre, found, codeEq, textEq⟩ := scanned.poisoned status
      rw [GrpcMessageScanner.feed_of_failed status]
      refine ⟨scanned.size, ahead, scanned.acceptable, ?_, ?_⟩
      · intro healthy
        rw [status] at healthy
        cases healthy
      · intro _
        exact ⟨pre, firstBadPrefix_append_of_some data found, codeEq, textEq⟩
  | false =>
      obtain ⟨sameRefusal, framesAfter, restAfter⟩ :=
        scanned.append_of_healthy status data
      have sizeEq := scanned.size
      rcases GrpcMessageScanner.feed_cases status data with
        ⟨accepted, -, stillHealthy, unconsumedEq, sizeAfter⟩ |
        ⟨pre, refused, -, nowFailed, codeEq, textEq, sizeAfter⟩
      · refine ⟨sizeAfter.trans sizeEq, ahead, scanned.acceptable, ?_, ?_⟩
        · intro _
          rw [unconsumedEq]
          exact ⟨by rw [sameRefusal, ← sizeEq, accepted], framesAfter, restAfter⟩
        · intro failed
          rw [stillHealthy] at failed
          cases failed
      · refine ⟨sizeAfter.trans sizeEq, ahead, scanned.acceptable, ?_, ?_⟩
        · intro healthy
          rw [nowFailed] at healthy
          cases healthy
        · intro _
          exact ⟨pre, by rw [sameRefusal, ← sizeEq, refused], codeEq,
            by rw [textEq, sizeEq]⟩

theorem next (scanned : Scanned maxMessageSize bytes delivered scanner)
    {message : Bytes} {rest : GrpcMessageScanner}
    (taken : scanner.next = some (message, rest)) :
    ∃ frame, message = frame.payload ∧
      Scanned maxMessageSize bytes (delivered ++ [frame]) rest := by
  have status : scanner.failed = false := by
    cases status : scanner.failed with
    | false => rfl
    | true => simp [GrpcMessageScanner.next_of_failed status] at taken
  obtain ⟨clean, framesEq, restEq⟩ := scanned.healthy status
  rcases GrpcMessageScanner.next_cases status with
    ⟨nothing, -⟩ | ⟨frame, after, takenEq, readEq, afterHealthy, afterSize⟩
  · rw [nothing] at taken
    cases taken
  · rw [takenEq, Option.some.injEq, Prod.mk.injEq] at taken
    obtain ⟨rfl, rfl⟩ := taken
    have framesAfter : parseFrames bytes =
        (delivered ++ [frame]) ++ parseFrames after.unconsumed := by
      rw [framesEq, parseFrames_of_read readEq, List.append_assoc]
      rfl
    refine ⟨frame, rfl, afterSize.trans scanned.size, ?_, ?_, ?_, ?_⟩
    · rw [framesAfter]
      exact List.prefix_append _ _
    · intro other member
      apply good_of_firstBadPrefix_eq_none clean
      rw [framesAfter]
      exact List.mem_append_left _ member
    · intro _
      exact ⟨clean, framesAfter, by rw [restEq, incompleteFrame_of_read readEq]⟩
    · intro failed
      rw [afterHealthy] at failed
      cases failed

end Scanned

namespace GrpcMessageScanner

/-- The drain loop on a healthy scanner: it takes every buffered complete
frame, stops with nothing complete left, and touches no later bytes. -/
theorem takeUpTo_spec {fuel : Nat} {scanner : GrpcMessageScanner}
    (healthy : scanner.failed = false)
    (enough : scanner.unconsumed.length ≤ fuel) :
    (takeUpTo fuel scanner).1 =
        (parseFrames scanner.unconsumed).map Frame.payload ∧
      (takeUpTo fuel scanner).2.unconsumed =
        incompleteFrame scanner.unconsumed ∧
      (takeUpTo fuel scanner).2.failed = false ∧
      (takeUpTo fuel scanner).2.maxMessageSize = scanner.maxMessageSize := by
  induction fuel generalizing scanner with
  | zero =>
      have empty : scanner.unconsumed = [] :=
        List.eq_nil_of_length_eq_zero (by omega)
      simp [takeUpTo, empty, healthy]
  | succ fuel ih =>
      rcases next_cases healthy with
        ⟨nothing, readEq⟩ | ⟨frame, rest, takenEq, readEq, restHealthy, restSize⟩
      · simp [takeUpTo, nothing, parseFrames_of_incomplete readEq,
          incompleteFrame_of_incomplete readEq, healthy]
      · have shorter := frameReader.shrinks readEq
        obtain ⟨messages, unconsumedEq, stillHealthy, sizeEq⟩ :=
          ih restHealthy (by omega)
        simp only [takeUpTo, takenEq, messages, unconsumedEq, stillHealthy,
          sizeEq, restSize, parseFrames_of_read readEq,
          incompleteFrame_of_read readEq, List.map_cons, and_self]

theorem takeAll_spec {scanner : GrpcMessageScanner}
    (healthy : scanner.failed = false) :
    scanner.takeAll.1 = (parseFrames scanner.unconsumed).map Frame.payload ∧
      scanner.takeAll.2.unconsumed = incompleteFrame scanner.unconsumed ∧
      scanner.takeAll.2.failed = false ∧
      scanner.takeAll.2.maxMessageSize = scanner.maxMessageSize :=
  takeUpTo_spec healthy (by rw [unconsumed_length]; omega)

/-- The drain loop ends because `next` returns false. -/
theorem next_takeAll {scanner : GrpcMessageScanner}
    (healthy : scanner.failed = false) : scanner.takeAll.2.next = none := by
  obtain ⟨-, unconsumedEq, stillHealthy, -⟩ := takeAll_spec healthy
  rcases next_cases stillHealthy with ⟨nothing, -⟩ | ⟨frame, rest, -, readEq, -⟩
  · exact nothing
  · rw [unconsumedEq] at readEq
    have stuck := frameReader.read_unread scanner.unconsumed
    change Frame.read (incompleteFrame scanner.unconsumed) = none at stuck
    rw [stuck] at readEq
    cases readEq

end GrpcMessageScanner

theorem Scanned.failed_iff {maxMessageSize : Nat} {bytes : Bytes}
    {delivered : List Frame} {scanner : GrpcMessageScanner}
    (scanned : Scanned maxMessageSize bytes delivered scanner) :
    scanner.failed = true ↔
      ∃ pre ∈ completePrefixes bytes, pre.Bad maxMessageSize := by
  constructor
  · intro failed
    obtain ⟨pre, found, -⟩ := scanned.poisoned failed
    exact ⟨pre, List.mem_of_find?_eq_some found,
      by simpa using List.find?_some found⟩
  · rintro ⟨pre, member, bad⟩
    by_contra healthy
    have clean := (scanned.healthy (by simpa using healthy)).1
    have acceptable := List.find?_eq_none.mp clean pre member
    simp [bad] at acceptable

/-- Draining a healthy scanner leaves it at the end of the complete frames. -/
theorem Scanned.takeAll {maxMessageSize : Nat} {bytes : Bytes}
    {delivered : List Frame} {scanner : GrpcMessageScanner}
    (scanned : Scanned maxMessageSize bytes delivered scanner)
    (healthy : scanner.failed = false) :
    Scanned maxMessageSize bytes (parseFrames bytes) scanner.takeAll.2 := by
  obtain ⟨clean, framesEq, restEq⟩ := scanned.healthy healthy
  obtain ⟨-, unconsumedEq, stillHealthy, sizeEq⟩ :=
    GrpcMessageScanner.takeAll_spec healthy
  refine ⟨sizeEq.trans scanned.size, List.prefix_refl _,
    good_of_firstBadPrefix_eq_none clean, ?_, ?_⟩
  · intro _
    rw [unconsumedEq, ← restEq, parseFrames_incompleteFrame]
    refine ⟨clean, (List.append_nil _).symm, ?_⟩
    exact (incompleteFrame_of_incomplete (frameReader.read_unread bytes)).symm
  · intro failed
    rw [stillHealthy] at failed
    cases failed

/-! ## Any sequence of calls -/

inductive ScannerOp
  | feed (data : Bytes)
  | next

inductive ScannerAnswer
  | fed (accepted : Bool)
  | taken (message : Option Bytes)
  deriving DecidableEq

namespace GrpcMessageScanner

def perform (scanner : GrpcMessageScanner) :
    ScannerOp → ScannerAnswer × GrpcMessageScanner
  | .feed data => (.fed (scanner.feed data).1, (scanner.feed data).2)
  | .next =>
      match scanner.next with
      | none => (.taken none, scanner)
      | some (message, rest) => (.taken (some message), rest)

def performAll (scanner : GrpcMessageScanner) :
    List ScannerOp → List ScannerAnswer × GrpcMessageScanner
  | [] => ([], scanner)
  | op :: ops =>
      let tail := (scanner.perform op).2.performAll ops
      ((scanner.perform op).1 :: tail.1, tail.2)

end GrpcMessageScanner

/-- The bytes a sequence of calls feeds, chunk after chunk. -/
def fedBytes : List ScannerOp → Bytes
  | [] => []
  | .feed data :: ops => data ++ fedBytes ops
  | .next :: ops => fedBytes ops

/-- The messages among the answers, in order. -/
def takenMessages : List ScannerAnswer → List Bytes
  | [] => []
  | .taken (some message) :: answers => message :: takenMessages answers
  | _ :: answers => takenMessages answers

/-- An answer that reports failure: `Feed` or `Next` returned false. -/
def ScannerAnswer.isFalse : ScannerAnswer → Prop
  | .fed accepted => accepted = false
  | .taken message => message = none

theorem Scanned.perform {maxMessageSize : Nat} {bytes : Bytes}
    {delivered : List Frame} {scanner : GrpcMessageScanner}
    (scanned : Scanned maxMessageSize bytes delivered scanner)
    (op : ScannerOp) :
    ∃ more, takenMessages [(scanner.perform op).1] = more.map Frame.payload ∧
      Scanned maxMessageSize (bytes ++ fedBytes [op]) (delivered ++ more)
        (scanner.perform op).2 := by
  cases op with
  | feed data =>
      refine ⟨[], rfl, ?_⟩
      simpa [fedBytes, GrpcMessageScanner.perform] using scanned.feed data
  | next =>
      cases taken : scanner.next with
      | none =>
          refine ⟨[], ?_, ?_⟩
          · simp [GrpcMessageScanner.perform, taken, takenMessages]
          · simpa [GrpcMessageScanner.perform, taken, fedBytes] using scanned
      | some pair =>
          obtain ⟨message, rest⟩ := pair
          obtain ⟨frame, rfl, after⟩ := scanned.next taken
          refine ⟨[frame], ?_, ?_⟩
          · simp [GrpcMessageScanner.perform, taken, takenMessages]
          · simpa [GrpcMessageScanner.perform, taken, fedBytes] using after

theorem takenMessages_cons (answer : ScannerAnswer)
    (answers : List ScannerAnswer) :
    takenMessages (answer :: answers) =
      takenMessages [answer] ++ takenMessages answers := by
  cases answer with
  | fed accepted => rfl
  | taken message => cases message <;> rfl

theorem fedBytes_cons (op : ScannerOp) (ops : List ScannerOp) :
    fedBytes (op :: ops) = fedBytes [op] ++ fedBytes ops := by
  cases op <;> simp [fedBytes]

theorem Scanned.performAll {maxMessageSize : Nat} {bytes : Bytes}
    {delivered : List Frame} {scanner : GrpcMessageScanner}
    (scanned : Scanned maxMessageSize bytes delivered scanner)
    (ops : List ScannerOp) :
    ∃ more, takenMessages (scanner.performAll ops).1 =
        more.map Frame.payload ∧
      Scanned maxMessageSize (bytes ++ fedBytes ops) (delivered ++ more)
        (scanner.performAll ops).2 := by
  induction ops generalizing bytes delivered scanner with
  | nil =>
      refine ⟨[], rfl, ?_⟩
      simpa [fedBytes, GrpcMessageScanner.performAll] using scanned
  | cons op ops ih =>
      obtain ⟨first, firstEq, afterFirst⟩ := scanned.perform op
      obtain ⟨others, othersEq, afterAll⟩ := ih afterFirst
      refine ⟨first ++ others, ?_, ?_⟩
      · rw [GrpcMessageScanner.performAll, takenMessages_cons, firstEq,
          othersEq, List.map_append]
      · rw [fedBytes_cons, ← List.append_assoc, ← List.append_assoc]
        exact afterAll

namespace GrpcMessageScanner

/-- A call leaves the scanner failed when it was failed before or when the call
is a refused `feed`. -/
theorem perform_failed_iff (scanner : GrpcMessageScanner) (op : ScannerOp) :
    (scanner.perform op).2.failed = true ↔
      scanner.failed = true ∨ (scanner.perform op).1 = .fed false := by
  cases status : scanner.failed with
  | true =>
      cases op with
      | feed data => simp [perform, feed_of_failed status, status]
      | next => simp [perform, next_of_failed status, status]
  | false =>
      cases op with
      | feed data =>
          rcases feed_cases status data with
            ⟨-, accepted, healthy, -⟩ | ⟨pre, -, refused, failed, -⟩
          · simp [perform, accepted, healthy]
          · simp [perform, refused, failed]
      | next =>
          rcases next_cases status with
            ⟨nothing, -⟩ | ⟨frame, rest, taken, -, healthy, -⟩
          · simp [perform, nothing, status]
          · simp [perform, taken, healthy]

theorem performAll_failed_iff (scanner : GrpcMessageScanner)
    (ops : List ScannerOp) :
    (scanner.performAll ops).2.failed = true ↔
      scanner.failed = true ∨ .fed false ∈ (scanner.performAll ops).1 := by
  induction ops generalizing scanner with
  | nil => simp [performAll]
  | cons op ops ih =>
      simp only [performAll, ih, perform_failed_iff, List.mem_cons,
        eq_comm (a := ScannerAnswer.fed false), or_assoc]

theorem performAll_isFalse_of_failed {scanner : GrpcMessageScanner}
    (failed : scanner.failed = true) (ops : List ScannerOp) :
    ∀ answer ∈ (scanner.performAll ops).1, answer.isFalse := by
  induction ops with
  | nil => simp [performAll]
  | cons op ops ih =>
      have inert : (scanner.perform op).1.isFalse ∧
          (scanner.perform op).2 = scanner := by
        cases op with
        | feed data =>
            simp [perform, feed_of_failed failed, ScannerAnswer.isFalse]
        | next => simp [perform, next_of_failed failed, ScannerAnswer.isFalse]
      simp only [performAll, inert.2, List.mem_cons]
      rintro answer (rfl | member)
      · exact inert.1
      · exact ih answer member

end GrpcMessageScanner

/-- For every way of cutting a byte string into chunks and of placing `next`
calls between them: the messages taken are the payloads of the first complete
frames, all acceptable; some `feed` is refused exactly when a complete prefix
at a frame boundary is refused, the first such prefix decides the code, and
nothing succeeds afterwards; and as long as no `feed` was refused, calling
`next` until it returns false delivers the remaining complete frames and leaves
exactly the incomplete one. -/
theorem scanner_computes_reference_parse (maxMessageSize : Nat)
    (ops : List ScannerOp) :
    let answers := ((GrpcMessageScanner.new maxMessageSize).performAll ops).1
    let scanner := ((GrpcMessageScanner.new maxMessageSize).performAll ops).2
    let bytes := fedBytes ops
    (∃ delivered, delivered <+: parseFrames bytes ∧
        takenMessages answers = delivered.map Frame.payload ∧
        ∀ frame ∈ delivered,
          frame.flag = 0 ∧ frame.payload.length ≤ maxMessageSize) ∧
      (.fed false ∈ answers ↔
        ∃ pre ∈ completePrefixes bytes, pre.Bad maxMessageSize) ∧
      (∀ pre, firstBadPrefix maxMessageSize bytes = some pre →
        scanner.errorCode = pre.code) ∧
      (.fed false ∈ answers → ∀ later,
        ∀ answer ∈ (scanner.performAll later).1, answer.isFalse) ∧
      (.fed false ∉ answers →
        scanner.takeAll.2.next = none ∧
          takenMessages answers ++ scanner.takeAll.1 =
            (parseFrames bytes).map Frame.payload ∧
          (scanner.takeAll.2.hasPartialMessage = true ↔
            incompleteFrame bytes ≠ [])) := by
  intro answers scanner bytes
  obtain ⟨delivered, takenEq, scanned⟩ :=
    (Scanned.new maxMessageSize).performAll ops
  simp only [List.nil_append] at scanned
  have failedIff : scanner.failed = true ↔ .fed false ∈ answers := by
    have reported := GrpcMessageScanner.performAll_failed_iff
      (GrpcMessageScanner.new maxMessageSize) ops
    have fresh : ¬ (GrpcMessageScanner.new maxMessageSize).failed = true := by
      simp [GrpcMessageScanner.new]
    rwa [or_iff_right fresh] at reported
  have badIff := scanned.failed_iff
  refine ⟨⟨delivered, scanned.ahead, takenEq, ?_⟩,
    failedIff.symm.trans badIff, ?_, ?_, ?_⟩
  · intro frame member
    have acceptable := scanned.acceptable frame member
    simpa [FramePrefix.Bad, Frame.framePrefix] using acceptable
  · intro pre found
    have failed : scanner.failed = true := badIff.mpr
      ⟨pre, List.mem_of_find?_eq_some found, by simpa using List.find?_some found⟩
    obtain ⟨other, otherFound, codeEq, -⟩ := scanned.poisoned failed
    rw [found, Option.some.injEq] at otherFound
    rw [codeEq, otherFound]
  · intro refused later
    exact GrpcMessageScanner.performAll_isFalse_of_failed
      (failedIff.mpr refused) later
  · intro neverRefused
    have healthy : scanner.failed = false := by
      simpa using fun failed => neverRefused (failedIff.mp failed)
    obtain ⟨-, framesEq, restEq⟩ := scanned.healthy healthy
    obtain ⟨messagesEq, unconsumedEq, -⟩ :=
      GrpcMessageScanner.takeAll_spec healthy
    refine ⟨GrpcMessageScanner.next_takeAll healthy, ?_, ?_⟩
    · rw [takenEq, messagesEq, ← List.map_append, ← framesEq]
    · rw [GrpcMessageScanner.hasPartialMessage_iff, unconsumedEq, ← restEq]

end Egrpc
