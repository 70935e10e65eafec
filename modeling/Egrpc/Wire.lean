import Egrpc.Support.Bytes

/-!
# gRPC wire-format helpers

The pure functions of `grpc_wire.cc`: the status codes and their two sources
(the `grpc-status` trailer and the HTTP status), the five-byte message prefix,
and the header value encodings.
-/

namespace Egrpc

/-- The 17 canonical gRPC status codes. -/
inductive StatusCode
  | ok
  | cancelled
  | unknown
  | invalidArgument
  | deadlineExceeded
  | notFound
  | alreadyExists
  | permissionDenied
  | resourceExhausted
  | failedPrecondition
  | aborted
  | outOfRange
  | unimplemented
  | internal
  | unavailable
  | dataLoss
  | unauthenticated
  deriving DecidableEq, Repr

/-- The code a number stands for; numbers past 16 are unknown codes. -/
def StatusCode.ofNumber : Nat → StatusCode
  | 0 => .ok
  | 1 => .cancelled
  | 2 => .unknown
  | 3 => .invalidArgument
  | 4 => .deadlineExceeded
  | 5 => .notFound
  | 6 => .alreadyExists
  | 7 => .permissionDenied
  | 8 => .resourceExhausted
  | 9 => .failedPrecondition
  | 10 => .aborted
  | 11 => .outOfRange
  | 12 => .unimplemented
  | 13 => .internal
  | 14 => .unavailable
  | 15 => .dataLoss
  | 16 => .unauthenticated
  | _ => .unknown

theorem StatusCode.ofNumber_eq_ok {number : Nat} :
    StatusCode.ofNumber number = .ok ↔ number = 0 := by
  unfold StatusCode.ofNumber
  split <;> simp_all

/-- The fallback used when the trailers carry no `grpc-status`. -/
def httpStatusToGrpcCode (httpStatus : Int) : StatusCode :=
  if httpStatus = 400 then .internal
  else if httpStatus = 401 then .unauthenticated
  else if httpStatus = 403 then .permissionDenied
  else if httpStatus = 404 then .unimplemented
  else if httpStatus = 429 ∨ httpStatus = 502 ∨ httpStatus = 503 ∨
      httpStatus = 504 then .unavailable
  else .unknown

theorem httpStatusToGrpcCode_ne_ok (httpStatus : Int) :
    httpStatusToGrpcCode httpStatus ≠ .ok := by
  unfold httpStatusToGrpcCode
  split_ifs <;> simp

/-- Parse a `grpc-status` value: one to ten decimal digits.  Codes past 16 are
unknown, and anything else is malformed. -/
def parseGrpcStatus (value : Bytes) : Option StatusCode :=
  if value = [] ∨ 10 < value.length then none
  else if value.all Bytes.isDigit then
    some (StatusCode.ofNumber (Bytes.digitsValue value))
  else none

/-- The values that denote an OK status: up to ten digits, denoting zero. -/
theorem parseGrpcStatus_eq_ok {value : Bytes} :
    parseGrpcStatus value = some .ok ↔
      1 ≤ value.length ∧ value.length ≤ 10 ∧ value.all Bytes.isDigit ∧
        Bytes.digitsValue value = 0 := by
  unfold parseGrpcStatus
  by_cases lengths : value = [] ∨ 10 < value.length
  · rw [if_pos lengths]
    constructor
    · intro impossible
      cases impossible
    · rintro ⟨nonempty, short, -⟩
      rcases lengths with rfl | long
      · simp at nonempty
      · omega
  · rw [if_neg lengths]
    push Not at lengths
    obtain ⟨nonempty, short⟩ := lengths
    have positive : 1 ≤ value.length := List.length_pos_of_ne_nil nonempty
    by_cases digits : value.all Bytes.isDigit
    · rw [if_pos digits]
      simp only [Option.some.injEq, positive, short, digits, true_and]
      exact StatusCode.ofNumber_eq_ok
    · simp [digits]

/-- The 32-bit length field at the front of a byte string. -/
def readBigEndian32 (bytes : Bytes) : Nat :=
  (bytes.getD 0 0).toNat <<< 24 ||| (bytes.getD 1 0).toNat <<< 16 |||
    (bytes.getD 2 0).toNat <<< 8 ||| (bytes.getD 3 0).toNat

/-- The five-byte prefix for a payload: flag zero, then the length narrowed to
32 bits. -/
def appendGrpcFramePrefix (payloadLen : Nat) (out : Bytes) : Bytes :=
  let len := payloadLen % 2 ^ 32
  out ++ [0, UInt8.ofNat (len >>> 24 &&& 0xff), UInt8.ofNat (len >>> 16 &&& 0xff),
    UInt8.ofNat (len >>> 8 &&& 0xff), UInt8.ofNat (len &&& 0xff)]

theorem readBigEndian32_digits (first second third fourth : UInt8)
    (rest : Bytes) :
    readBigEndian32 (first :: second :: third :: fourth :: rest) =
      first.toNat * 2 ^ 24 + second.toNat * 2 ^ 16 + third.toNat * 2 ^ 8 +
        fourth.toNat :=
  Bytes.shiftLeft_or_digits first second third fourth

def hexDigit (char : UInt8) : Option Nat :=
  if '0'.toUInt8 ≤ char ∧ char ≤ '9'.toUInt8 then
    some (char.toNat - '0'.toUInt8.toNat)
  else if 'a'.toUInt8 ≤ char ∧ char ≤ 'f'.toUInt8 then
    some (char.toNat - 'a'.toUInt8.toNat + 10)
  else if 'A'.toUInt8 ≤ char ∧ char ≤ 'F'.toUInt8 then
    some (char.toNat - 'A'.toUInt8.toNat + 10)
  else none

/-- Decode the percent-encoding of `grpc-message`.  Invalid and truncated
sequences pass through. -/
def percentDecode : Bytes → Bytes
  | char :: high :: low :: rest =>
      if char = '%'.toUInt8 then
        match hexDigit high, hexDigit low with
        | some hi, some lo => UInt8.ofNat (hi * 16 + lo) :: percentDecode rest
        | _, _ => char :: percentDecode (high :: low :: rest)
      else char :: percentDecode (high :: low :: rest)
  | char :: rest => char :: percentDecode rest
  | [] => []

theorem percentDecode_eq_nil {text : Bytes} : percentDecode text = [] ↔ text = [] := by
  constructor
  · intro decoded
    unfold percentDecode at decoded
    split at decoded
    · split_ifs at decoded
      split at decoded <;> cases decoded
    · cases decoded
    · rfl
  · rintro rfl
    rfl

/-- One character of the standard base64 alphabet. -/
def kBase64Chars (index : Nat) : UInt8 :=
  (Bytes.ofString
    "ABCDEFGHIJKLMNOPQRSTUVWXYZabcdefghijklmnopqrstuvwxyz0123456789+/").getD
    (index &&& 0x3f) 0

/-- Base64 without padding, for `-bin` metadata values. -/
def base64Encode : Bytes → Bytes
  | first :: second :: third :: rest =>
      let v := first.toNat <<< 16 ||| second.toNat <<< 8 ||| third.toNat
      kBase64Chars (v >>> 18) :: kBase64Chars (v >>> 12) ::
        kBase64Chars (v >>> 6) :: kBase64Chars v :: base64Encode rest
  | [first, second] =>
      let v := first.toNat <<< 16 ||| second.toNat <<< 8
      [kBase64Chars (v >>> 18), kBase64Chars (v >>> 12), kBase64Chars (v >>> 6)]
  | [first] =>
      let v := first.toNat <<< 16
      [kBase64Chars (v >>> 18), kBase64Chars (v >>> 12)]
  | [] => []

/-- `grpc-timeout` values must fit eight decimal digits. -/
def kMaxTimeoutDigitsValue : Int := 99999999

/-- The units of `grpc-timeout`, most precise first: suffix and nanoseconds. -/
def kUnits : List (Char × Int) :=
  [('n', 1), ('u', 1000), ('m', 1000000), ('S', 1000000000),
    ('M', 60000000000), ('H', 3600000000000)]

/-- Encode a timeout in nanoseconds as a `grpc-timeout` value: the first unit
whose rounded-up value fits. -/
def encodeGrpcTimeout (ns : Int) : Bytes :=
  if ns ≤ 0 then Bytes.ofString "1n"
  else
    let rounded (nanos : Int) := ns.tdiv nanos + if ns.tmod nanos ≠ 0 then 1 else 0
    match kUnits.find? fun unit => decide (rounded unit.2 ≤ kMaxTimeoutDigitsValue) with
    | some (suffix, nanos) => Bytes.decimalInt (rounded nanos) ++ [suffix.toUInt8]
    | none => Bytes.decimalInt kMaxTimeoutDigitsValue ++ ['H'.toUInt8]

end Egrpc
