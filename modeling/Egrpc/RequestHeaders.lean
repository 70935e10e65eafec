import Egrpc.Wire

/-!
# Request headers

`BuildRequestHeaders` assembles the HEADERS block of a call: the headers the
transport owns, then the caller's metadata with lowercased keys, without the
keys that would collide with the transport's.
-/

namespace Egrpc

abbrev Header := Bytes × Bytes

abbrev HeaderList := List Header

def kUserAgent : Bytes := Bytes.ofString "grpc-c++-egrpc/0.1.0"

def asciiLower (text : Bytes) : Bytes :=
  text.map fun char =>
    if 'A'.toUInt8 ≤ char ∧ char ≤ 'Z'.toUInt8 then
      char - 'A'.toUInt8 + 'a'.toUInt8
    else char

def isBinKey (key : Bytes) : Bool :=
  decide (4 ≤ key.length) && key.drop (key.length - 4) == Bytes.ofString "-bin"

/-- The keys the transport owns. -/
def kReserved : List Bytes :=
  ["te", "host", "content-type", "user-agent", "grpc-timeout", "grpc-encoding",
    "grpc-accept-encoding"].map Bytes.ofString

/-- Metadata under these keys is dropped: pseudo-headers and the transport's
own. -/
def isReservedMetadataKey (key : Bytes) : Bool :=
  key.head? == some ':'.toUInt8 || kReserved.contains key

/-- The entry one metadata pair contributes, if its key is not reserved. -/
def metadataHeader (pair : Header) : Option Header :=
  let key := asciiLower pair.1
  if isReservedMetadataKey key then none
  else some (key, if isBinKey key then base64Encode pair.2 else pair.2)

/-- The HEADERS block of a call. -/
def buildRequestHeaders (authority methodPath : Bytes) (timeout : Option Int)
    (metadata : HeaderList) (userAgentPrefix : Bytes) : HeaderList :=
  let userAgent :=
    if userAgentPrefix = [] then kUserAgent
    else userAgentPrefix ++ Bytes.ofString " " ++ kUserAgent
  [(Bytes.ofString ":method", Bytes.ofString "POST"),
    (Bytes.ofString ":scheme", Bytes.ofString "https"),
    (Bytes.ofString ":path", methodPath),
    (Bytes.ofString ":authority", authority),
    (Bytes.ofString "te", Bytes.ofString "trailers"),
    (Bytes.ofString "content-type", Bytes.ofString "application/grpc"),
    (Bytes.ofString "user-agent", userAgent),
    (Bytes.ofString "grpc-accept-encoding", Bytes.ofString "identity")] ++
  (timeout.map fun ns => (Bytes.ofString "grpc-timeout", encodeGrpcTimeout ns)).toList ++
  metadata.filterMap metadataHeader

end Egrpc
