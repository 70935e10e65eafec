import Egrpc.Wire
import Mathlib.Data.List.DropRight

/-!
# Base64 decoding

`-bin` metadata values travel as base64.  The encoder emits no padding; the
decoder drops trailing padding and shifts six bits at a time through a 32-bit
accumulator, from which it takes a byte whenever eight bits have gathered.
-/

namespace Egrpc

/-- The value of a character of the alphabet. -/
def base64Value (char : UInt8) : Option Nat :=
  if 'A'.toUInt8 ≤ char ∧ char ≤ 'Z'.toUInt8 then some (char.toNat - 'A'.toNat)
  else if 'a'.toUInt8 ≤ char ∧ char ≤ 'z'.toUInt8 then
    some (char.toNat - 'a'.toNat + 26)
  else if '0'.toUInt8 ≤ char ∧ char ≤ '9'.toUInt8 then
    some (char.toNat - '0'.toNat + 52)
  else if char = '+'.toUInt8 then some 62
  else if char = '/'.toUInt8 then some 63
  else none

/-- The decoding loop, from an accumulator of which `bits` bits are pending.  None
if a character is outside the alphabet. -/
def base64DecodeFrom (acc bits : Nat) : Bytes → Option Bytes
  | [] => some []
  | char :: rest =>
      match base64Value char with
      | none => none
      | some value =>
          let acc := (acc <<< 6 ||| value) % 2 ^ 32
          if 8 ≤ bits + 6 then
            let bits := bits + 6 - 8
            (base64DecodeFrom acc bits rest).map (UInt8.ofNat (acc >>> bits &&& 0xff) :: ·)
          else base64DecodeFrom acc (bits + 6) rest

def base64Decode (text : Bytes) : Option Bytes :=
  let data := text.rdropWhile (· == '='.toUInt8)
  if data.length % 4 = 1 then none else base64DecodeFrom 0 0 data

/-! ## The alphabet -/

theorem base64Value_kBase64Chars (index : Nat) :
    base64Value (kBase64Chars index) = some (index % 64) := by
  have table : ∀ value : Fin 64, base64Value ((Bytes.ofString
      "ABCDEFGHIJKLMNOPQRSTUVWXYZabcdefghijklmnopqrstuvwxyz0123456789+/").getD
        value 0) = some value.val := by
    decide +kernel
  have masked : index &&& 0x3f = index % 64 := Nat.and_two_pow_sub_one_eq_mod index 6
  rw [kBase64Chars, masked]
  exact table ⟨index % 64, Nat.mod_lt index (by decide)⟩

theorem base64Value_lt {char : UInt8} {value : Nat}
    (isValue : base64Value char = some value) : value < 64 := by
  simp only [base64Value, UInt8.le_iff_toNat_le] at isValue
  have upper : 'Z'.toUInt8.toNat = 90 := rfl
  have lower : 'z'.toUInt8.toNat = 122 := rfl
  have digit : '9'.toUInt8.toNat = 57 := rfl
  have upperFirst : 'A'.toNat = 65 := rfl
  have lowerFirst : 'a'.toNat = 97 := rfl
  have digitFirst : '0'.toNat = 48 := rfl
  split_ifs at isValue <;> cases isValue <;> omega

/-! ## The loop -/

/-- Shifting a character in appends its six bits. -/
theorem shift_in {value : Nat} (small : value < 64) (acc : Nat) :
    acc <<< 6 ||| value = acc * 64 + value := by
  rw [← Nat.shiftLeft_add_eq_or_of_lt small, Nat.shiftLeft_eq]

/-- The first character of a group leaves its bits pending. -/
theorem base64DecodeFrom_first {char : UInt8} {value : Nat}
    (isValue : base64Value char = some value) (acc : Nat) (rest : Bytes) :
    base64DecodeFrom acc 0 (char :: rest) =
      base64DecodeFrom ((acc * 64 + value) % 2 ^ 32) 6 rest := by
  simp [base64DecodeFrom, isValue, shift_in (base64Value_lt isValue)]

/-- Every further character completes a byte. -/
theorem base64DecodeFrom_byte {char : UInt8} {value : Nat}
    (isValue : base64Value char = some value) (acc bits : Nat) (rest : Bytes) :
    base64DecodeFrom acc (bits + 2) (char :: rest) =
      (base64DecodeFrom ((acc * 64 + value) % 2 ^ 32) bits rest).map
        (UInt8.ofNat ((acc * 64 + value) % 2 ^ 32 / 2 ^ bits % 256) :: ·) := by
  have masked : ∀ word : Nat, word &&& 0xff = word % 256 :=
    fun word => Nat.and_two_pow_sub_one_eq_mod word 8
  simp [base64DecodeFrom, isValue, shift_in (base64Value_lt isValue), masked,
    Nat.shiftRight_eq_div_pow]

variable {first second third fourth : UInt8} {a b c d : Nat}

theorem base64DecodeFrom_two (acc : Nat) (rest : Bytes)
    (firstEq : base64Value first = some a) (secondEq : base64Value second = some b) :
    ∃ acc', acc' % 16 = b % 16 ∧ base64DecodeFrom acc 0 (first :: second :: rest) =
      (base64DecodeFrom acc' 4 rest).map (UInt8.ofNat (a * 4 + b / 16) :: ·) := by
  have aLt := base64Value_lt firstEq
  have bLt := base64Value_lt secondEq
  rw [base64DecodeFrom_first firstEq, base64DecodeFrom_byte secondEq _ 4]
  have byteEq : ((acc * 64 + a) % 2 ^ 32 * 64 + b) % 2 ^ 32 / 2 ^ 4 % 256 =
      a * 4 + b / 16 := by
    omega
  rw [byteEq]
  refine ⟨_, ?_, rfl⟩
  omega

theorem base64DecodeFrom_third (acc : Nat) (rest : Bytes) (low : acc % 16 = b % 16)
    (thirdEq : base64Value third = some c) :
    ∃ acc', acc' % 4 = c % 4 ∧ base64DecodeFrom acc 4 (third :: rest) =
      (base64DecodeFrom acc' 2 rest).map (UInt8.ofNat (b % 16 * 16 + c / 4) :: ·) := by
  have cLt := base64Value_lt thirdEq
  rw [base64DecodeFrom_byte thirdEq _ 2]
  have byteEq : (acc * 64 + c) % 2 ^ 32 / 2 ^ 2 % 256 = b % 16 * 16 + c / 4 := by
    omega
  rw [byteEq]
  refine ⟨_, ?_, rfl⟩
  omega

/-- The fourth gives the last and leaves nothing pending. -/
theorem base64DecodeFrom_fourth (acc : Nat) (rest : Bytes) (low : acc % 4 = c % 4)
    (fourthEq : base64Value fourth = some d) :
    ∃ acc', base64DecodeFrom acc 2 (fourth :: rest) =
      (base64DecodeFrom acc' 0 rest).map (UInt8.ofNat (c % 4 * 64 + d) :: ·) := by
  have dLt := base64Value_lt fourthEq
  rw [base64DecodeFrom_byte fourthEq _ 0]
  have byteEq : (acc * 64 + d) % 2 ^ 32 / 2 ^ 0 % 256 = c % 4 * 64 + d := by
    omega
  rw [byteEq]
  exact ⟨_, rfl⟩

/-! ## Round trip -/

theorem base64_word (first second third : UInt8) :
    (first.toNat <<< 16 ||| second.toNat <<< 8 ||| third.toNat) =
      first.toNat * 65536 + second.toNat * 256 + third.toNat := by
  simpa using Bytes.shiftLeft_or_digits 0 first second third

/-- The bytes of a word, from its four groups of six bits. -/
theorem base64_bytes (first second third : UInt8) :
    let v := first.toNat * 65536 + second.toNat * 256 + third.toNat
    UInt8.ofNat ((v >>> 18) % 64 * 4 + (v >>> 12) % 64 / 16) = first ∧
      UInt8.ofNat ((v >>> 12) % 64 % 16 * 16 + (v >>> 6) % 64 / 4) = second ∧
      UInt8.ofNat ((v >>> 6) % 64 % 4 * 64 + v % 64) = third := by
  intro v
  have firstLt := first.toNat_lt
  have secondLt := second.toNat_lt
  have thirdLt := third.toNat_lt
  simp only [← UInt8.toNat_inj, UInt8.toNat_ofNat', Nat.shiftRight_eq_div_pow]
  refine ⟨?_, ?_, ?_⟩ <;> omega

theorem base64DecodeFrom_base64Encode (acc : Nat) (bytes : Bytes) :
    base64DecodeFrom acc 0 (base64Encode bytes) = some bytes := by
  induction bytes using base64Encode.induct generalizing acc with
  | case1 first second third rest ih =>
      obtain ⟨firstEq, secondEq, thirdEq⟩ := base64_bytes first second third
      simp only [base64Encode, base64_word]
      set v := first.toNat * 65536 + second.toNat * 256 + third.toNat
      obtain ⟨acc₁, low₁, two⟩ := base64DecodeFrom_two acc
        (kBase64Chars (v >>> 6) :: kBase64Chars v :: base64Encode rest)
        (base64Value_kBase64Chars (v >>> 18)) (base64Value_kBase64Chars (v >>> 12))
      obtain ⟨acc₂, low₂, three⟩ := base64DecodeFrom_third acc₁
        (kBase64Chars v :: base64Encode rest) low₁ (base64Value_kBase64Chars (v >>> 6))
      obtain ⟨acc₃, four⟩ := base64DecodeFrom_fourth acc₂ (base64Encode rest) low₂
        (base64Value_kBase64Chars v)
      rw [two, three, four, ih, firstEq, secondEq, thirdEq]
      rfl
  | case2 first second =>
      obtain ⟨firstEq, secondEq, -⟩ := base64_bytes first second 0
      have word : first.toNat <<< 16 ||| second.toNat <<< 8 =
          first.toNat * 65536 + second.toNat * 256 + UInt8.toNat 0 :=
        (Nat.or_zero _).symm.trans (base64_word first second 0)
      simp only [base64Encode, word]
      set v := first.toNat * 65536 + second.toNat * 256 + UInt8.toNat 0
      obtain ⟨acc₁, low₁, two⟩ := base64DecodeFrom_two acc [kBase64Chars (v >>> 6)]
        (base64Value_kBase64Chars (v >>> 18)) (base64Value_kBase64Chars (v >>> 12))
      obtain ⟨acc₂, -, three⟩ := base64DecodeFrom_third acc₁ [] low₁
        (base64Value_kBase64Chars (v >>> 6))
      rw [two, three, firstEq, secondEq]
      rfl
  | case3 first =>
      obtain ⟨firstEq, -, -⟩ := base64_bytes first 0 0
      have word : first.toNat <<< 16 =
          first.toNat * 65536 + UInt8.toNat 0 * 256 + UInt8.toNat 0 := by
        simp [Nat.shiftLeft_eq]
      simp only [base64Encode, word]
      set v := first.toNat * 65536 + UInt8.toNat 0 * 256 + UInt8.toNat 0
      obtain ⟨acc₁, -, two⟩ := base64DecodeFrom_two acc []
        (base64Value_kBase64Chars (v >>> 18)) (base64Value_kBase64Chars (v >>> 12))
      rw [two, firstEq]
      rfl
  | case4 => rfl

/-- The encoder emits characters of the alphabet only. -/
theorem base64Value_of_mem_base64Encode {char : UInt8} {bytes : Bytes}
    (member : char ∈ base64Encode bytes) : (base64Value char).isSome := by
  have alphabet : ∀ index, (base64Value (kBase64Chars index)).isSome := by
    intro index
    rw [base64Value_kBase64Chars]
    rfl
  induction bytes using base64Encode.induct with
  | case1 first second third rest ih =>
      simp only [base64Encode, List.mem_cons] at member
      rcases member with rfl | rfl | rfl | rfl | member
      · exact alphabet _
      · exact alphabet _
      · exact alphabet _
      · exact alphabet _
      · exact ih member
  | case2 first second =>
      simp only [base64Encode, List.mem_cons, List.not_mem_nil, or_false] at member
      rcases member with rfl | rfl | rfl <;> exact alphabet _
  | case3 first =>
      simp only [base64Encode, List.mem_cons, List.not_mem_nil, or_false] at member
      rcases member with rfl | rfl <;> exact alphabet _
  | case4 => cases member

theorem base64Encode_length (bytes : Bytes) : (base64Encode bytes).length % 4 ≠ 1 := by
  induction bytes using base64Encode.induct with
  | case1 first second third rest ih =>
      simp only [base64Encode, List.length_cons]
      omega
  | case2 | case3 | case4 => simp [base64Encode]

/-- Data characters are not padding, so exactly the padding is stripped. -/
theorem rdropWhile_padding {data : Bytes}
    (isData : ∀ char ∈ data, (base64Value char).isSome) (count : Nat) :
    (data ++ List.replicate count '='.toUInt8).rdropWhile (· == '='.toUInt8) = data := by
  induction count with
  | zero =>
      rw [List.replicate_zero, List.append_nil, List.rdropWhile_eq_self_iff]
      intro nonempty padding
      have isValue := isData _ (List.getLast_mem nonempty)
      rw [beq_iff_eq.mp padding] at isValue
      exact absurd isValue (by decide)
  | succ count ih =>
      rw [List.replicate_succ', ← List.append_assoc, List.rdropWhile_concat_pos _ _ _ (by rfl),
        ih]

theorem base64Decode_padded (bytes : Bytes) (count : Nat) :
    base64Decode (base64Encode bytes ++ List.replicate count '='.toUInt8) =
      some bytes := by
  have stripped : (base64Encode bytes ++ List.replicate count '='.toUInt8).rdropWhile
      (· == '='.toUInt8) = base64Encode bytes :=
    rdropWhile_padding (fun _ => base64Value_of_mem_base64Encode) count
  simp only [base64Decode, stripped, base64Encode_length, if_false]
  exact base64DecodeFrom_base64Encode 0 bytes

theorem base64Decode_base64Encode (bytes : Bytes) :
    base64Decode (base64Encode bytes) = some bytes := by
  simpa using base64Decode_padded bytes 0

end Egrpc
