import Egrpc.RequestHeaders

/-!
# Caller metadata in the request headers

The caller's metadata follows the headers that the transport owns.  Its keys are
lowercased before they are compared with the reserved ones, so that no spelling
of a reserved key gets through.  Lower case is given here by the two rows of the
alphabet, and the reserved keys by the names that the transport writes.
-/

namespace Egrpc

/-- The headers that the transport may write. -/
def transportNames : List Bytes :=
  [":method", ":scheme", ":path", ":authority", "te", "content-type", "user-agent",
    "grpc-accept-encoding", "grpc-timeout"].map Bytes.ofString

/-- The keys that metadata may not use: pseudo-headers, the names that the transport
writes, and two that would change the meaning of the request. -/
def ReservedKey (key : Bytes) : Prop :=
  key.head? = some ':'.toUInt8 ∨
    key ∈ transportNames ++ [Bytes.ofString "host", Bytes.ofString "grpc-encoding"]

instance (key : Bytes) : Decidable (ReservedKey key) :=
  inferInstanceAs (Decidable (_ ∨ _))

def upperLetters : Bytes := Bytes.ofString "ABCDEFGHIJKLMNOPQRSTUVWXYZ"

/-- The lowercase letters, in the same order. -/
def lowerLetters : Bytes := Bytes.ofString "abcdefghijklmnopqrstuvwxyz"

/-- The lowercase letter of an uppercase one; other characters stay. -/
def lowerLetter (char : UInt8) : UInt8 :=
  ((upperLetters.zip lowerLetters).lookup char).getD char

def lowerKey (key : Bytes) : Bytes :=
  key.map lowerLetter

/-- The value under which metadata goes over the wire. -/
def wireValue (key value : Bytes) : Bytes :=
  if Bytes.ofString "-bin" <:+ key then base64Encode value else value

/-! ## Keys -/

theorem asciiLower_eq_lowerKey (key : Bytes) : asciiLower key = lowerKey key := by
  have letters : ∀ char : UInt8, (if 'A'.toUInt8 ≤ char ∧ char ≤ 'Z'.toUInt8 then
      char - 'A'.toUInt8 + 'a'.toUInt8 else char) = lowerLetter char :=
    Bytes.forall_byte (by decide +kernel)
  exact List.map_congr_left fun char _ => letters char

theorem lowerLetter_cases (char : UInt8) :
    lowerLetter char ∈ lowerLetters ∨ char ∉ upperLetters ∧ lowerLetter char = char := by
  unfold lowerLetter
  cases found : (upperLetters.zip lowerLetters).lookup char with
  | some lower =>
      obtain ⟨before, after, split, -⟩ := List.lookup_eq_some_iff.mp found
      have member : (char, lower) ∈ upperLetters.zip lowerLetters := by
        rw [split]
        exact List.mem_append_right _ List.mem_cons_self
      exact .inl (List.of_mem_zip member).2
  | none =>
      refine .inr ⟨fun member => ?_, rfl⟩
      have keys : (upperLetters.zip lowerLetters).map Prod.fst = upperLetters :=
        List.map_fst_zip (by decide +kernel)
      rw [← keys] at member
      obtain ⟨pair, inRows, isChar⟩ := List.mem_map.mp member
      exact absurd isChar.symm (bne_iff_ne.mp (List.lookup_eq_none_iff.mp found pair inRows))

theorem lowerLetter_notMem (char : UInt8) : lowerLetter char ∉ upperLetters := by
  have apart : ∀ lower ∈ lowerLetters, lower ∉ upperLetters := by decide +kernel
  rcases lowerLetter_cases char with isLower | ⟨notUpper, same⟩
  · exact apart _ isLower
  · rw [same]
    exact notUpper

theorem lowerKey_lowerKey (key : Bytes) : lowerKey (lowerKey key) = lowerKey key := by
  have fixed : ∀ lower ∈ lowerLetters, lowerLetter lower = lower := by decide +kernel
  rw [lowerKey, lowerKey, List.map_map]
  refine List.map_congr_left fun char _ => ?_
  rcases lowerLetter_cases char with isLower | ⟨-, same⟩
  · exact fixed _ isLower
  · rw [Function.comp_apply, same, same]

theorem isReservedMetadataKey_iff {key : Bytes} :
    isReservedMetadataKey key = true ↔ ReservedKey key := by
  have listed : ∀ name ∈ kReserved, name ∈ transportNames ++
      [Bytes.ofString "host", Bytes.ofString "grpc-encoding"] := by
    decide +kernel
  have found : ∀ name ∈ transportNames ++ [Bytes.ofString "host",
      Bytes.ofString "grpc-encoding"], isReservedMetadataKey name = true := by
    decide +kernel
  constructor
  · intro reserved
    rw [isReservedMetadataKey, Bool.or_eq_true, beq_iff_eq] at reserved
    exact reserved.imp_right fun member => listed key (List.contains_iff_mem.mp member)
  · rintro (pseudo | member)
    · rw [isReservedMetadataKey, pseudo]
      rfl
    · exact found key member

theorem isBinKey_iff (key : Bytes) : isBinKey key = true ↔ Bytes.ofString "-bin" <:+ key := by
  rw [isBinKey, Bool.and_eq_true, decide_eq_true_eq, beq_iff_eq]
  constructor
  · rintro ⟨-, ending⟩
    rw [← ending]
    exact List.drop_suffix _ key
  · rintro ⟨stem, rfl⟩
    have four : (Bytes.ofString "-bin").length = 4 := rfl
    rw [List.length_append, four, Nat.add_sub_cancel, List.drop_left]
    exact ⟨Nat.le_add_left 4 _, rfl⟩

theorem metadataHeader_eq (pair : Header) :
    metadataHeader pair =
      if ReservedKey (lowerKey pair.1) then none
      else some (lowerKey pair.1, wireValue (lowerKey pair.1) pair.2) := by
  simp only [metadataHeader, wireValue, isBinKey_iff, isReservedMetadataKey_iff,
    asciiLower_eq_lowerKey]

/-- No pair is lost, repeated or moved. -/
theorem filterMap_metadataHeader (metadata : HeaderList) :
    metadata.filterMap metadataHeader =
      (metadata.filter fun pair => ¬ ReservedKey (lowerKey pair.1)).map
        fun pair => (lowerKey pair.1, wireValue (lowerKey pair.1) pair.2) := by
  induction metadata with
  | nil => rfl
  | cons pair metadata ih =>
      rw [List.filterMap_cons, metadataHeader_eq, List.filter_cons, ih]
      by_cases reserved : ReservedKey (lowerKey pair.1) <;> simp [reserved]

theorem buildRequestHeaders_append (authority methodPath : Bytes) (timeout : Option Int)
    (metadata : HeaderList) (userAgentPrefix : Bytes) :
    buildRequestHeaders authority methodPath timeout metadata userAgentPrefix =
      buildRequestHeaders authority methodPath timeout [] userAgentPrefix ++
        metadata.filterMap metadataHeader := by
  simp only [buildRequestHeaders, List.filterMap_nil, List.append_nil]

theorem buildRequestHeaders_names (authority methodPath : Bytes) (timeout : Option Int)
    (userAgentPrefix : Bytes) :
    (buildRequestHeaders authority methodPath timeout [] userAgentPrefix).map Prod.fst =
      transportNames.take (if timeout.isSome then 9 else 8) := by
  cases timeout <;> rfl

theorem name_of_mem_metadata {metadata : HeaderList} {header : Header}
    (member : header ∈ metadata.filterMap metadataHeader) :
    ¬ ReservedKey header.1 ∧ ∃ key, header.1 = lowerKey key := by
  rw [filterMap_metadataHeader] at member
  obtain ⟨pair, kept, rfl⟩ := List.mem_map.mp member
  refine ⟨?_, pair.1, rfl⟩
  simpa using (List.mem_filter.mp kept).2

/-- No pseudo-header comes after a regular header. -/
theorem pseudo_headers_first (authority methodPath : Bytes) (timeout : Option Int)
    (metadata : HeaderList) (userAgentPrefix : Bytes) :
    (buildRequestHeaders authority methodPath timeout metadata userAgentPrefix).Pairwise
      fun first second => second.1.head? = some ':'.toUInt8 →
        first.1.head? = some ':'.toUInt8 := by
  have transport : ∀ count, count = 8 ∨ count = 9 → (transportNames.take count).Pairwise
      fun first second => second.head? = some ':'.toUInt8 → first.head? = some ':'.toUInt8 := by
    rintro count (rfl | rfl) <;> decide +kernel
  have regular : ∀ header ∈ metadata.filterMap metadataHeader,
      header.1.head? ≠ some ':'.toUInt8 :=
    fun header member pseudo => (name_of_mem_metadata member).1 (.inl pseudo)
  rw [buildRequestHeaders_append, List.pairwise_append]
  refine ⟨?_, ?_, ?_⟩
  · have names := transport (if timeout.isSome then 9 else 8) (by split_ifs <;> simp)
    rw [← buildRequestHeaders_names authority methodPath timeout userAgentPrefix,
      List.pairwise_map] at names
    exact names
  · exact List.pairwise_of_forall_mem_list fun _ _ second member pseudo =>
      absurd pseudo (regular second member)
  · intro _ _ second member pseudo
    exact absurd pseudo (regular second member)

/-- Caller metadata neither forges nor displaces the headers of the transport, which
are what they are without metadata.  After them comes one entry for each pair under
an unreserved key, in order and in lower case, base64-encoded if the key says so. -/
theorem buildRequestHeaders_apart (authority methodPath : Bytes) (timeout : Option Int)
    (metadata : HeaderList) (userAgentPrefix : Bytes) :
    ∃ transport caller,
      buildRequestHeaders authority methodPath timeout metadata userAgentPrefix =
        transport ++ caller ∧
      transport = buildRequestHeaders authority methodPath timeout [] userAgentPrefix ∧
      transport.map Prod.fst = ([":method", ":scheme", ":path", ":authority", "te",
        "content-type", "user-agent", "grpc-accept-encoding"] ++
          if timeout.isSome then ["grpc-timeout"] else []).map Bytes.ofString ∧
      caller = (metadata.filter fun pair => ¬ ReservedKey (lowerKey pair.1)).map
        (fun pair => (lowerKey pair.1, wireValue (lowerKey pair.1) pair.2)) ∧
      ((transport ++ caller).Pairwise fun first second =>
        second.1.head? = some ':'.toUInt8 → first.1.head? = some ':'.toUInt8) ∧
      ∀ header ∈ caller,
        (∀ name ∈ transportNames ++ [Bytes.ofString "host", Bytes.ofString "grpc-encoding"],
          lowerKey header.1 ≠ name) ∧
        ∀ char ∈ header.1, char ∉ upperLetters := by
  refine ⟨_, _, buildRequestHeaders_append .., rfl, ?_, filterMap_metadataHeader metadata,
    ?_, ?_⟩
  · rw [buildRequestHeaders_names]
    cases timeout <;> rfl
  · rw [← buildRequestHeaders_append]
    exact pseudo_headers_first ..
  · intro header member
    obtain ⟨unreserved, key, named⟩ := name_of_mem_metadata member
    constructor
    · rintro name isTransport rfl
      rw [named, lowerKey_lowerKey, ← named] at isTransport
      exact unreserved (.inr isTransport)
    · intro char charMember
      rw [named] at charMember
      obtain ⟨letter, -, rfl⟩ := List.mem_map.mp charMember
      exact lowerLetter_notMem letter

/-- Reserved keys in unusual spellings, and a binary key. -/
example : ([(Bytes.ofString "TE", [0]), (Bytes.ofString ":Path", [0]),
      (Bytes.ofString "Trace-BIN", [0, 1])] : HeaderList).filterMap metadataHeader =
    [(Bytes.ofString "trace-bin", Bytes.ofString "AAE")] := by
  decide +kernel

end Egrpc
