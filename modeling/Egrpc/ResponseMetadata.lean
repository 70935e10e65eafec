import Egrpc.Base64
import Egrpc.RequestMetadata
import Egrpc.Support.Multimap

/-!
# Metadata as the application sees it

`DepositMetadata` moves received metadata into a multimap of strings, decoding
the values of `-bin` keys, and into a multimap of views of them.  The two maps
are ordered by different comparison functions, which agree.  Metadata that a
server echoes therefore comes back as it was sent, up to the case of its keys.
-/

namespace Egrpc

/-! ## Comparison of strings -/

/-- `std::memcmp`: the difference of the first bytes that differ. -/
def memcmp : Nat → Bytes → Bytes → Int
  | count + 1, x :: xs, y :: ys =>
      if x = y then memcmp count xs ys else (x.toNat : Int) - y.toNat
  | _, _, _ => 0

/-- `string_ref::compare`, on the strings referred to. -/
def StringRef.compare (x y : Bytes) : Int :=
  let minSize := if x.length < y.length then x.length else y.length
  let r := if minSize = 0 then 0 else memcmp minSize x y
  if r ≠ 0 then r
  else if x.length < y.length then -1
  else if x.length > y.length then 1
  else 0

/-- `operator<` of views. -/
def StringRef.Less (x y : Bytes) : Prop :=
  StringRef.compare x y < 0

instance : DecidableRel StringRef.Less :=
  fun x y => inferInstanceAs (Decidable (StringRef.compare x y < 0))

namespace StringRef

theorem memcmp_ne {x y : UInt8} (differ : x ≠ y) : (x.toNat : Int) - y.toNat ≠ 0 := by
  intro same
  exact differ (UInt8.toNat_inj.mp (by omega))

/-- Views compare byte by byte. -/
theorem compare_cons (x y : UInt8) (xs ys : Bytes) :
    compare (x :: xs) (y :: ys) =
      if x = y then compare xs ys else (x.toNat : Int) - y.toNat := by
  have sizes : (if (x :: xs).length < (y :: ys).length then (x :: xs).length
      else (y :: ys).length) =
        (if xs.length < ys.length then xs.length else ys.length) + 1 := by
    simp only [List.length_cons, Nat.add_lt_add_iff_right]
    split_ifs <;> rfl
  simp only [compare, sizes]
  generalize (if xs.length < ys.length then xs.length else ys.length) = minSize
  by_cases same : x = y
  · have rest : memcmp (minSize + 1) (x :: xs) (y :: ys) =
        if minSize = 0 then 0 else memcmp minSize xs ys := by
      rw [memcmp, if_pos same]
      split_ifs with empty
      · rw [empty]
        rfl
      · rfl
    simp only [rest, if_pos same, List.length_cons, Nat.add_lt_add_iff_right, gt_iff_lt,
      Nat.add_eq_zero_iff, Nat.one_ne_zero, and_false, if_false]
  · simp [memcmp, same, memcmp_ne same]

theorem less_iff (x y : Bytes) : Less x y ↔ x < y := by
  induction x generalizing y with
  | nil =>
      cases y with
      | nil => decide
      | cons head y => exact iff_of_true (by simp [Less, compare]) (List.nil_lt_cons _ _)
  | cons head x ih =>
      cases y with
      | nil => exact iff_of_false (by simp [Less, compare]) (List.not_lt_nil _)
      | cons head' y =>
          rw [Less, compare_cons, List.cons_lt_cons_iff]
          by_cases same : head = head'
          · rw [if_pos same, ← ih y, Less]
            simp [same]
          · rw [if_neg same, UInt8.lt_iff_toNat_lt]
            simp only [same, false_and, or_false]
            omega

end StringRef

/-! ## Depositing metadata -/

/-- The test for `-bin` keys on the receiving side. -/
def Channel.isBinKey (key : Bytes) : Bool :=
  decide (4 ≤ key.length) && key.drop (key.length - 4) == Bytes.ofString "-bin"

/-- The two maps of a context; a view is given by the string it refers to. -/
structure Deposited where
  storage : HeaderList := []
  view : HeaderList := []

/-- The value under which an entry is exposed.  One that does not decode is kept
raw. -/
def exposedValue (kv : Header) : Bytes :=
  if Channel.isBinKey kv.1 then (base64Decode kv.2).getD kv.2 else kv.2

/-- Deposit one entry.  Strings are ordered as `std::string` orders them, by their
bytes as unsigned numbers. -/
def depositEntry (deposited : Deposited) (kv : Header) : Deposited where
  storage := Multimap.emplace (· < ·) (kv.1, exposedValue kv) deposited.storage
  view := Multimap.emplace StringRef.Less (kv.1, exposedValue kv) deposited.view

/-- Replace the contents of the maps by received metadata. -/
def depositMetadata (received : HeaderList) (deposited : Deposited) : Deposited :=
  received.foldl depositEntry { deposited with storage := [], view := [] }

/-- What the maps hold after some entries were deposited. -/
structure Holds (entries : HeaderList) (deposited : Deposited) : Prop where
  storage : Multimap.Enumerates entries deposited.storage
  view : deposited.view = deposited.storage

theorem Holds.depositEntry {entries : HeaderList} {deposited : Deposited}
    (holds : Holds entries deposited) (kv : Header) :
    Holds (entries ++ [(kv.1, exposedValue kv)]) (depositEntry deposited kv) where
  storage := holds.storage.emplace _
  view := by
    rw [Egrpc.depositEntry, holds.view]
    exact Multimap.emplace_congr StringRef.less_iff _ _

/-- The maps enumerate what was received, decoded. -/
theorem holds_depositMetadata (received : HeaderList) (deposited : Deposited) :
    Holds (received.map fun kv => (kv.1, exposedValue kv))
      (depositMetadata received deposited) := by
  have run : ∀ (entries : HeaderList) (start : Deposited), Holds entries start →
      Holds (entries ++ received.map fun kv => (kv.1, exposedValue kv))
        (received.foldl depositEntry start) := by
    induction received with
    | nil =>
        intro entries start holds
        simpa using holds
    | cons kv received ih =>
        intro entries start holds
        simpa using ih _ _ (holds.depositEntry kv)
  exact run [] _ ⟨Multimap.Enumerates.nil, rfl⟩

/-! ## Echoed metadata -/

/-- Decoding on the receiving side undoes encoding on the sending side. -/
theorem exposedValue_metadataHeader {pair : Header}
    (unreserved : ¬ ReservedKey (lowerKey pair.1)) :
    (metadataHeader pair).map (fun kv => (kv.1, exposedValue kv)) =
      some (lowerKey pair.1, pair.2) := by
  have sameTest : Channel.isBinKey (lowerKey pair.1) = isBinKey (lowerKey pair.1) := rfl
  simp only [metadataHeader_eq, if_neg unreserved, Option.map_some, exposedValue, wireValue,
    ← isBinKey_iff, sameTest]
  split_ifs
  · rw [base64Decode_base64Encode, Option.getD_some]
  · rfl

/-- Metadata survives an echo: when the entries that `BuildRequestHeaders` emits for
metadata under unreserved keys come back as response metadata, the two maps
enumerate the same sequence, which has one entry for each pair, under its
lowercased key and with its value, and the values of each key in their order. -/
theorem metadata_survives_echo (authority methodPath : Bytes) (timeout : Option Int)
    (userAgentPrefix : Bytes) (metadata echoed : HeaderList) (deposited : Deposited)
    (unreserved : ∀ pair ∈ metadata, ¬ ReservedKey (lowerKey pair.1))
    (emitted : buildRequestHeaders authority methodPath timeout metadata userAgentPrefix =
      buildRequestHeaders authority methodPath timeout [] userAgentPrefix ++ echoed) :
    let final := depositMetadata echoed deposited
    final.view = final.storage ∧
      final.storage.Perm (metadata.map fun pair => (lowerKey pair.1, pair.2)) ∧
      ∀ key, (final.storage.filter (·.1 = key)).map Prod.snd =
        (metadata.filter (lowerKey ·.1 = key)).map Prod.snd := by
  intro final
  have echoedEq : metadata.filterMap metadataHeader = echoed := by
    simp only [buildRequestHeaders, List.filterMap_nil, List.append_nil] at emitted
    exact List.append_cancel_left emitted
  have exposed : (echoed.map fun kv => (kv.1, exposedValue kv)) =
      metadata.map fun pair => (lowerKey pair.1, pair.2) := by
    rw [← echoedEq, List.map_filterMap, ← List.filterMap_eq_map]
    exact List.filterMap_congr fun pair member =>
      exposedValue_metadataHeader (unreserved pair member)
  obtain ⟨⟨-, perm, perKey⟩, view⟩ := holds_depositMetadata echoed deposited
  rw [exposed] at perm perKey
  refine ⟨view, perm, ?_⟩
  intro key
  rw [perKey key, List.filter_map, List.map_map]
  rfl

/-- Two values under one binary key in two spellings, and a plain one. -/
theorem binary_metadata_survives_echo :
    let metadata : HeaderList :=
      [(Bytes.ofString "Trace-Bin", [0, 255]), (Bytes.ofString "user", [65]),
        (Bytes.ofString "trace-bin", [1])]
    let final := depositMetadata (metadata.filterMap metadataHeader) {}
    final.view = final.storage ∧
      final.storage.Perm [(Bytes.ofString "trace-bin", [0, 255]),
        (Bytes.ofString "user", [65]), (Bytes.ofString "trace-bin", [1])] ∧
      (final.storage.filter (·.1 = Bytes.ofString "trace-bin")).map Prod.snd =
        [[0, 255], [1]] := by
  intro metadata final
  obtain ⟨view, perm, perKey⟩ := metadata_survives_echo [] [] none [] metadata
    (metadata.filterMap metadataHeader) {} (by decide) (by rfl)
  refine ⟨view, perm, ?_⟩
  rw [perKey]
  decide

end Egrpc
