import Egrpc.Support.StreamReader
import Egrpc.Wire

/-!
# The gRPC message scanner

`GrpcMessageScanner` reassembles length-prefixed messages from DATA chunks.  It
keeps an accumulation buffer and a read position: `feed` appends a chunk and
validates every prefix that has become complete, and `next` takes one complete
message off the read position, clearing or compacting the buffer as it goes.

The second half of the file defines the reference it is compared with: the
parse of the whole byte string as consecutive frames.
-/

namespace Egrpc

/-- The scanner's state.  The read position never passes the end of the
buffer. -/
structure GrpcMessageScanner where
  maxMessageSize : Nat
  buf : Bytes := []
  pos : Nat := 0
  failed : Bool := false
  errorCode : StatusCode := .ok
  error : Bytes := []
  pos_le : pos ≤ buf.length := by simp

namespace GrpcMessageScanner

def new (maxMessageSize : Nat) : GrpcMessageScanner where
  maxMessageSize := maxMessageSize

/-- The buffered bytes that `next` has not consumed. -/
def unconsumed (scanner : GrpcMessageScanner) : Bytes :=
  scanner.buf.drop scanner.pos

/-- The validation loop of `Feed`, from `offset` on: the code and the text of
the first prefix that is refused.  Every iteration advances by at least five
bytes, so the buffer's length is enough fuel. -/
def validateFrom (maxMessageSize : Nat) (buf : Bytes) :
    Nat → Nat → Option (StatusCode × Bytes)
  | 0, _ => none
  | fuel + 1, offset =>
      if buf.length - offset < 5 then none
      else
        let flag := buf.getD offset 0
        let msgLen := readBigEndian32 (buf.drop (offset + 1))
        if flag = 1 then
          some (.internal, Bytes.ofString
            "compressed message received but compression is not supported")
        else if flag ≠ 0 then
          some (.internal, Bytes.ofString
            "malformed gRPC message: invalid compressed flag " ++
              Bytes.decimal flag.toNat)
        else if maxMessageSize < msgLen then
          some (.resourceExhausted, Bytes.ofString "received message of " ++
            Bytes.decimal msgLen ++
            Bytes.ofString " bytes exceeds max_receive_message_size (" ++
            Bytes.decimal maxMessageSize ++ Bytes.ofString ")")
        else if buf.length - offset < 5 + msgLen then none
        else validateFrom maxMessageSize buf fuel (offset + (5 + msgLen))

def append (scanner : GrpcMessageScanner) (data : Bytes) :
    GrpcMessageScanner :=
  { scanner with
    buf := scanner.buf ++ data
    pos_le := by
      have := scanner.pos_le
      simp only [List.length_append]
      omega }

/-- Append a chunk and validate the prefixes that are now complete.  A failed
scanner stays failed and buffers nothing more. -/
def feed (scanner : GrpcMessageScanner) (data : Bytes) :
    Bool × GrpcMessageScanner :=
  if scanner.failed then (false, scanner)
  else
    let scanner := scanner.append data
    match validateFrom scanner.maxMessageSize scanner.buf scanner.buf.length
        scanner.pos with
    | none => (true, scanner)
    | some (code, text) =>
        (false, { scanner with failed := true, errorCode := code, error := text })

/-- Move the read position past a message, then clear or compact the buffer. -/
def advance (scanner : GrpcMessageScanner) (msgLen : Nat)
    (within : scanner.pos + (5 + msgLen) ≤ scanner.buf.length) :
    GrpcMessageScanner :=
  let pos := scanner.pos + (5 + msgLen)
  if pos = scanner.buf.length then
    { scanner with buf := [], pos := 0, pos_le := Nat.le_refl _ }
  else if 65536 ≤ pos ∧ scanner.buf.length / 2 ≤ pos then
    { scanner with buf := scanner.buf.drop pos, pos := 0, pos_le := Nat.zero_le _ }
  else { scanner with pos := pos, pos_le := within }

/-- Take the next complete message.  The prefix is trusted: `feed` checked it. -/
def next (scanner : GrpcMessageScanner) :
    Option (Bytes × GrpcMessageScanner) :=
  if scanner.failed then none
  else
    let available := scanner.buf.length - scanner.pos
    if available < 5 then none
    else
      let msgLen := readBigEndian32 (scanner.buf.drop (scanner.pos + 1))
      if complete : available < 5 + msgLen then none
      else
        some ((scanner.buf.drop (scanner.pos + 5)).take msgLen,
          scanner.advance msgLen (by
            have := scanner.pos_le
            omega))

/-- Bytes of an incomplete frame remain buffered. -/
def hasPartialMessage (scanner : GrpcMessageScanner) : Bool :=
  decide (scanner.pos < scanner.buf.length)

/-- `while (scanner.Next(&message))`: the messages taken and the scanner
left. -/
def takeUpTo : Nat → GrpcMessageScanner → List Bytes × GrpcMessageScanner
  | 0, scanner => ([], scanner)
  | fuel + 1, scanner =>
      match scanner.next with
      | none => ([], scanner)
      | some (message, rest) =>
          let tail := takeUpTo fuel rest
          (message :: tail.1, tail.2)

/-- Call `next` until it returns false.  Each message consumes at least five
buffered bytes, so the buffer's length bounds the number of calls. -/
def takeAll (scanner : GrpcMessageScanner) :
    List Bytes × GrpcMessageScanner :=
  takeUpTo scanner.buf.length scanner

end GrpcMessageScanner

/-! ## The reference parse -/

/-- One frame on the wire: the flag byte and the payload. -/
structure Frame where
  flag : UInt8
  payload : Bytes
  deriving DecidableEq

/-- The five bytes in front of a payload. -/
structure FramePrefix where
  flag : UInt8
  length : Nat
  deriving DecidableEq

namespace FramePrefix

/-- A prefix the receiver refuses: compressed or malformed, or too long. -/
def Bad (maxMessageSize : Nat) (pre : FramePrefix) : Prop :=
  pre.flag ≠ 0 ∨ maxMessageSize < pre.length

instance (maxMessageSize : Nat) (pre : FramePrefix) :
    Decidable (pre.Bad maxMessageSize) :=
  inferInstanceAs (Decidable (_ ∨ _))

/-- The status a refused prefix ends the call with. -/
def code (pre : FramePrefix) : StatusCode :=
  if pre.flag ≠ 0 then .internal else .resourceExhausted

/-- The first five bytes, once they are there. -/
def read : Bytes → Option FramePrefix
  | flag :: first :: second :: third :: fourth :: _ =>
      some ⟨flag, first.toNat * 2 ^ 24 + second.toNat * 2 ^ 16 +
        third.toNat * 2 ^ 8 + fourth.toNat⟩
  | _ => none

end FramePrefix

namespace Frame

def framePrefix (frame : Frame) : FramePrefix :=
  ⟨frame.flag, frame.payload.length⟩

/-- The bytes of an uncompressed message. -/
def encode (payload : Bytes) : Bytes :=
  0 :: (Bytes.bigEndian32 payload.length ++ payload)

/-- The first frame and the bytes after it, once the frame is complete. -/
def read (bytes : Bytes) : Option (Frame × Bytes) :=
  match FramePrefix.read bytes with
  | none => none
  | some pre =>
      if bytes.length < 5 + pre.length then none
      else some (⟨pre.flag, (bytes.drop 5).take pre.length⟩,
        bytes.drop (5 + pre.length))

end Frame

theorem FramePrefix.read_isSome {bytes : Bytes} :
    (FramePrefix.read bytes).isSome ↔ 5 ≤ bytes.length := by
  unfold FramePrefix.read
  split
  · simp
  · rename_i short
    simp only [Option.isSome_none, Bool.false_eq_true, false_iff, not_le]
    match bytes, short with
    | [], _ => simp
    | [_], _ => simp
    | [_, _], _ => simp
    | [_, _, _], _ => simp
    | [_, _, _, _], _ => simp
    | _ :: _ :: _ :: _ :: _ :: _, short => exact (short _ _ _ _ _ _ rfl).elim

theorem FramePrefix.read_eq_none {bytes : Bytes} :
    FramePrefix.read bytes = none ↔ bytes.length < 5 := by
  rw [← Option.not_isSome_iff_eq_none, FramePrefix.read_isSome]
  omega

theorem FramePrefix.read_append {bytes : Bytes} {pre : FramePrefix}
    (later : Bytes) (complete : FramePrefix.read bytes = some pre) :
    FramePrefix.read (bytes ++ later) = some pre := by
  unfold FramePrefix.read at complete
  split at complete
  · simpa [FramePrefix.read] using complete
  · cases complete

/-- What the code computes from the bytes at an offset is the reference's
prefix there. -/
theorem FramePrefix.read_drop {buf : Bytes} {offset : Nat}
    (enough : 5 ≤ buf.length - offset) :
    FramePrefix.read (buf.drop offset) =
      some ⟨buf.getD offset 0, readBigEndian32 (buf.drop (offset + 1))⟩ := by
  have longEnough : 5 ≤ (buf.drop offset).length := by simpa using enough
  have tailEq : buf.drop (offset + 1) = (buf.drop offset).drop 1 := by
    rw [List.drop_drop]
  have headEq : buf.getD offset 0 = (buf.drop offset).getD 0 0 := by
    simp [List.getD_eq_getElem?_getD, List.getElem?_drop]
  rw [tailEq, headEq]
  generalize buf.drop offset = bytes at longEnough
  match bytes, longEnough with
  | flag :: first :: second :: third :: fourth :: rest, _ =>
      have value := readBigEndian32_digits first second third fourth rest
      simp only [FramePrefix.read, List.drop_succ_cons, List.drop_zero, value,
        List.getD_cons_zero]

theorem FramePrefix.length_lt {bytes : Bytes} {pre : FramePrefix}
    (complete : FramePrefix.read bytes = some pre) : pre.length < 2 ^ 32 := by
  unfold FramePrefix.read at complete
  split at complete
  · rename_i flag first second third fourth rest
    simp only [Option.some.injEq] at complete
    subst complete
    have firstLt := first.toNat_lt
    have secondLt := second.toNat_lt
    have thirdLt := third.toNat_lt
    have fourthLt := fourth.toNat_lt
    simp only
    omega
  · cases complete

/-- Inversion of `Frame.read`: a complete prefix, a payload of the announced
length, and the bytes after it. -/
theorem Frame.read_eq_some {bytes rest : Bytes} {frame : Frame} :
    Frame.read bytes = some (frame, rest) ↔
      FramePrefix.read bytes = some frame.framePrefix ∧
        5 + frame.payload.length ≤ bytes.length ∧
        frame.payload = (bytes.drop 5).take frame.payload.length ∧
        rest = bytes.drop (5 + frame.payload.length) := by
  unfold Frame.read
  cases prefixEq : FramePrefix.read bytes with
  | none => simp
  | some pre =>
      by_cases short : bytes.length < 5 + pre.length
      · simp only [short, if_true, Option.some.injEq]
        constructor
        · intro impossible
          cases impossible
        · rintro ⟨rfl, enough, -⟩
          simp only [Frame.framePrefix] at short
          omega
      · have payloadLength : ((bytes.drop 5).take pre.length).length = pre.length := by
          simp only [List.length_take, List.length_drop]
          omega
        simp only [short, if_false, Option.some.injEq, Prod.mk.injEq]
        constructor
        · rintro ⟨rfl, rfl⟩
          simp only [Frame.framePrefix, payloadLength]
          refine ⟨trivial, by omega, trivial, trivial⟩
        · rintro ⟨rfl, -, payloadEq, rfl⟩
          refine ⟨?_, rfl⟩
          cases frame with
          | mk flag payload =>
              simp only [Frame.framePrefix] at payloadEq ⊢
              rw [← payloadEq]

/-- Frames are records of a stream: a complete frame ignores what follows. -/
def frameReader : StreamReader UInt8 Frame where
  read := Frame.read
  shrinks := by
    intro bytes frame rest complete
    obtain ⟨-, enough, -, rfl⟩ := Frame.read_eq_some.mp complete
    simp only [List.length_drop]
    omega
  stable := by
    intro bytes frame rest later complete
    obtain ⟨prefixEq, enough, payloadEq, rfl⟩ := Frame.read_eq_some.mp complete
    refine Frame.read_eq_some.mpr
      ⟨FramePrefix.read_append later prefixEq, ?_, ?_, ?_⟩
    · simp only [List.length_append]
      omega
    · rw [List.drop_append_of_le_length (by omega),
        List.take_append_of_le_length (by simp only [List.length_drop]; omega)]
      exact payloadEq
    · rw [List.drop_append_of_le_length (by omega)]

def parseFrames (bytes : Bytes) : List Frame :=
  frameReader.records bytes

/-- The bytes after the last complete frame. -/
def incompleteFrame (bytes : Bytes) : Bytes :=
  frameReader.unread bytes

/-- All complete five-byte prefixes at frame boundaries, in order: one for each
complete frame, and one more when the incomplete frame's prefix is there. -/
def completePrefixes (bytes : Bytes) : List FramePrefix :=
  (parseFrames bytes).map Frame.framePrefix ++
    (FramePrefix.read (incompleteFrame bytes)).toList

/-- The first prefix at a frame boundary that the receiver refuses. -/
def firstBadPrefix (maxMessageSize : Nat) (bytes : Bytes) :
    Option FramePrefix :=
  (completePrefixes bytes).find? fun pre => decide (pre.Bad maxMessageSize)

end Egrpc
