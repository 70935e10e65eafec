import Egrpc.Base64

/-!
# The texts that base64 decoding accepts

`Base64Decode` reads back what `Base64Encode` wrote, padded or not.  What it
accepts from elsewhere it gives back under `Base64Encode` exactly if the bits that
no byte uses are zero.  It accepts data of the standard alphabet with any number of
trailing padding characters, where its comment speaks of two at most.
-/

namespace Egrpc

def base64Alphabet : Bytes :=
  Bytes.ofString "ABCDEFGHIJKLMNOPQRSTUVWXYZabcdefghijklmnopqrstuvwxyz0123456789+/"

/-- Data characters only, in a number that some byte string has. -/
structure Base64Data (data : Bytes) : Prop where
  alphabet : ∀ char ∈ data, char ∈ base64Alphabet
  lengths : data.length % 4 ≠ 1

/-- The low bits of the last data character that no byte uses are zero. -/
def UnusedBitsZero (data : Bytes) : Prop :=
  ∀ last value, data.getLast? = some last → base64Value last = some value →
    value % 2 ^ (data.length * 6 % 8) = 0

/-- The decoding loop with an accumulator that has no width. -/
def base64DecodeFromUnbounded (acc bits : Nat) : Bytes → Option Bytes
  | [] => some []
  | char :: rest =>
      match base64Value char with
      | none => none
      | some value =>
          let acc := acc <<< 6 ||| value
          if 8 ≤ bits + 6 then
            let bits := bits + 6 - 8
            (base64DecodeFromUnbounded acc bits rest).map
              (UInt8.ofNat (acc >>> bits &&& 0xff) :: ·)
          else base64DecodeFromUnbounded acc (bits + 6) rest

def base64DecodeUnbounded (text : Bytes) : Option Bytes :=
  let data := text.rdropWhile (· == '='.toUInt8)
  if data.length % 4 = 1 then none else base64DecodeFromUnbounded 0 0 data

/-! ## The alphabet -/

theorem kBase64Chars_of_base64Value {char : UInt8} {value : Nat}
    (isValue : base64Value char = some value) : kBase64Chars value = char := by
  have table : ∀ char, ∀ value ∈ base64Value char, kBase64Chars value = char :=
    Bytes.forall_byte (by decide +kernel)
  exact table char value isValue

theorem base64Value_isSome_iff (char : UInt8) :
    (base64Value char).isSome ↔ char ∈ base64Alphabet := by
  constructor
  · intro isSome
    obtain ⟨value, isValue⟩ := Option.isSome_iff_exists.mp isSome
    rw [← kBase64Chars_of_base64Value isValue]
    have inside : value &&& 0x3f < base64Alphabet.length :=
      Nat.lt_of_le_of_lt Nat.and_le_right (by decide)
    rw [kBase64Chars, ← base64Alphabet, List.getD_eq_getElem _ _ inside]
    exact List.getElem_mem inside
  · have values : ∀ char ∈ base64Alphabet, (base64Value char).isSome := by
      decide +kernel
    exact values char

theorem kBase64Chars_eq_iff {char : UInt8} {value : Nat}
    (isValue : base64Value char = some value) (index : Nat) :
    kBase64Chars index = char ↔ index % 64 = value := by
  constructor
  · rintro rfl
    rw [base64Value_kBase64Chars] at isValue
    exact Option.some.inj isValue
  · intro valueEq
    have indexValue := base64Value_kBase64Chars index
    rw [valueEq] at indexValue
    rw [← kBase64Chars_of_base64Value indexValue, kBase64Chars_of_base64Value isValue]

/-! ## What is accepted -/

theorem base64DecodeFrom_isSome_iff (acc bits : Nat) (data : Bytes) :
    (base64DecodeFrom acc bits data).isSome ↔ ∀ char ∈ data, char ∈ base64Alphabet := by
  induction data generalizing acc bits with
  | nil => simp [base64DecodeFrom]
  | cons char data ih =>
      rw [List.forall_mem_cons, ← base64Value_isSome_iff, base64DecodeFrom]
      cases base64Value char with
      | none => simp
      | some value =>
          simp only
          split_ifs <;> simp [ih]

theorem Base64Data.stripped {data : Bytes} (isData : Base64Data data) (count : Nat) :
    (data ++ List.replicate count '='.toUInt8).rdropWhile (· == '='.toUInt8) = data :=
  rdropWhile_padding (fun char member =>
    (base64Value_isSome_iff char).mpr (isData.alphabet char member)) count

theorem exists_padding (text : Bytes) :
    ∃ count, text = text.rdropWhile (· == '='.toUInt8) ++
      List.replicate count '='.toUInt8 := by
  refine ⟨(text.rtakeWhile (· == '='.toUInt8)).length, ?_⟩
  have padding : text.rtakeWhile (· == '='.toUInt8) =
      List.replicate (text.rtakeWhile (· == '='.toUInt8)).length '='.toUInt8 := by
    rw [List.eq_replicate_iff]
    refine ⟨rfl, fun char member => ?_⟩
    have isPadding := List.mem_rtakeWhile_imp member
    exact beq_iff_eq.mp isPadding
  rw [← padding, List.rdropWhile_append_rtakeWhile]

/-- The decoder accepts data with any amount of padding. -/
theorem base64Decode_isSome_iff (text : Bytes) :
    (base64Decode text).isSome ↔
      ∃ data count, Base64Data data ∧ text = data ++ List.replicate count '='.toUInt8 := by
  constructor
  · intro accepted
    obtain ⟨count, textEq⟩ := exists_padding text
    refine ⟨_, count, ?_, textEq⟩
    simp only [base64Decode] at accepted
    split_ifs at accepted with lengths
    · cases accepted
    · exact ⟨(base64DecodeFrom_isSome_iff 0 0 _).mp accepted, lengths⟩
  · rintro ⟨data, count, isData, rfl⟩
    simp only [base64Decode, isData.stripped, if_neg isData.lengths]
    exact (base64DecodeFrom_isSome_iff 0 0 data).mpr isData.alphabet

/-- The decoder accepts exactly the data with at most two padding characters, but
for texts of data with three or more. -/
theorem base64Decode_accepts_iff (text : Bytes) :
    ((base64Decode text).isSome ↔ ∃ data count, Base64Data data ∧ count ≤ 2 ∧
      text = data ++ List.replicate count '='.toUInt8) ↔
    ¬ ∃ data count, Base64Data data ∧ 3 ≤ count ∧
      text = data ++ List.replicate count '='.toUInt8 := by
  rw [base64Decode_isSome_iff]
  constructor
  · rintro agrees ⟨data, count, isData, long, rfl⟩
    obtain ⟨short, shortCount, shortIsData, atMostTwo, same⟩ :=
      agrees.mp ⟨data, count, isData, rfl⟩
    have dataEq : data = short := by
      rw [← isData.stripped count, same, shortIsData.stripped]
    have lengths := congrArg List.length same
    simp only [dataEq, List.length_append, List.length_replicate] at lengths
    omega
  · intro notLong
    constructor
    · rintro ⟨data, count, isData, textEq⟩
      refine ⟨data, count, isData, ?_, textEq⟩
      by_contra long
      exact notLong ⟨data, count, isData, by omega, textEq⟩
    · rintro ⟨data, count, isData, -, textEq⟩
      exact ⟨data, count, isData, textEq⟩

/-- A text of three padding characters decodes to the empty string. -/
theorem base64Decode_accepts_padding_only :
    ¬ ((base64Decode (Bytes.ofString "===")).isSome ↔ ∃ data count, Base64Data data ∧
      count ≤ 2 ∧ Bytes.ofString "===" = data ++ List.replicate count '='.toUInt8) := by
  intro agrees
  obtain ⟨data, count, isData, atMostTwo, textEq⟩ := agrees.mp (by decide)
  have stripped := isData.stripped count
  rw [← textEq] at stripped
  have dataEq : data = [] := stripped.symm.trans (by decide)
  have lengths := congrArg List.length textEq
  simp only [dataEq, List.nil_append, List.length_replicate] at lengths
  exact absurd (lengths.symm.trans (by decide : _ = 3)) (by omega)

/-! ## The width of the accumulator -/

/-- Bytes below the accumulator's width are the same in every longer one. -/
theorem byte_eq_of_mod_eq {acc wide bits : Nat} (same : acc % 2 ^ 32 = wide % 2 ^ 32)
    (low : bits ≤ 24) : acc / 2 ^ bits % 256 = wide / 2 ^ bits % 256 := by
  have divides : 2 ^ bits * 256 ∣ 2 ^ 32 := by
    rw [show (256 : Nat) = 2 ^ 8 from rfl, ← Nat.pow_add]
    exact Nat.pow_dvd_pow 2 (by omega)
  rw [← Nat.mod_mul_right_div_self, ← Nat.mod_mul_right_div_self,
    ← Nat.mod_mod_of_dvd acc divides, same, Nat.mod_mod_of_dvd wide divides]

theorem base64DecodeFrom_eq_unbounded {acc wide bits : Nat} (data : Bytes)
    (same : acc % 2 ^ 32 = wide % 2 ^ 32) (low : bits < 8) :
    base64DecodeFrom acc bits data = base64DecodeFromUnbounded wide bits data := by
  induction data generalizing acc wide bits with
  | nil => rfl
  | cons char data ih =>
      rw [base64DecodeFrom, base64DecodeFromUnbounded]
      cases isValue : base64Value char with
      | none => rfl
      | some value =>
          have shifted : (acc <<< 6 ||| value) % 2 ^ 32 % 2 ^ 32 =
              (wide <<< 6 ||| value) % 2 ^ 32 := by
            rw [shift_in (base64Value_lt isValue), shift_in (base64Value_lt isValue)]
            omega
          simp only
          split_ifs with full
          · have masked : ∀ word : Nat, word &&& 0xff = word % 256 :=
              fun word => Nat.and_two_pow_sub_one_eq_mod word 8
            rw [ih shifted (by omega), masked, masked, Nat.shiftRight_eq_div_pow,
              Nat.shiftRight_eq_div_pow, byte_eq_of_mod_eq shifted (by omega)]
          · exact ih shifted (by omega)

/-! ## Encoding what was decoded -/

variable {first second third fourth : UInt8} {a b c d : Nat}

/-- Two characters stand for a byte, whose encoding clears four bits. -/
theorem base64Encode_two (firstEq : base64Value first = some a)
    (secondEq : base64Value second = some b) :
    base64Encode [UInt8.ofNat (a * 4 + b / 16)] = [first, second] ↔ b % 2 ^ 4 = 0 := by
  have aLt := base64Value_lt firstEq
  have bLt := base64Value_lt secondEq
  simp only [base64Encode, List.cons.injEq, and_true, kBase64Chars_eq_iff firstEq,
    kBase64Chars_eq_iff secondEq, UInt8.toNat_ofNat', Nat.shiftLeft_eq,
    Nat.shiftRight_eq_div_pow]
  omega

theorem base64Encode_three (firstEq : base64Value first = some a)
    (secondEq : base64Value second = some b) (thirdEq : base64Value third = some c) :
    base64Encode [UInt8.ofNat (a * 4 + b / 16), UInt8.ofNat (b % 16 * 16 + c / 4)] =
      [first, second, third] ↔ c % 2 ^ 2 = 0 := by
  have aLt := base64Value_lt firstEq
  have bLt := base64Value_lt secondEq
  have cLt := base64Value_lt thirdEq
  have word : ∀ first second : UInt8, first.toNat <<< 16 ||| second.toNat <<< 8 =
      first.toNat * 65536 + second.toNat * 256 :=
    fun first second => by simpa using base64_word first second 0
  simp only [base64Encode, word, List.cons.injEq, and_true, kBase64Chars_eq_iff firstEq,
    kBase64Chars_eq_iff secondEq, kBase64Chars_eq_iff thirdEq, Nat.shiftRight_eq_div_pow]
  simp only [UInt8.toNat_ofNat']
  omega

theorem base64Encode_four (firstEq : base64Value first = some a)
    (secondEq : base64Value second = some b) (thirdEq : base64Value third = some c)
    (fourthEq : base64Value fourth = some d) (rest : Bytes) :
    base64Encode (UInt8.ofNat (a * 4 + b / 16) :: UInt8.ofNat (b % 16 * 16 + c / 4) ::
        UInt8.ofNat (c % 4 * 64 + d) :: rest) =
      first :: second :: third :: fourth :: base64Encode rest := by
  have aLt := base64Value_lt firstEq
  have bLt := base64Value_lt secondEq
  have cLt := base64Value_lt thirdEq
  have dLt := base64Value_lt fourthEq
  simp only [base64Encode, base64_word, List.cons.injEq, and_true,
    kBase64Chars_eq_iff firstEq, kBase64Chars_eq_iff secondEq, kBase64Chars_eq_iff thirdEq,
    kBase64Chars_eq_iff fourthEq, Nat.shiftRight_eq_div_pow]
  simp only [UInt8.toNat_ofNat']
  omega

theorem unusedBitsZero_group (first second third fourth : UInt8) (rest : Bytes) :
    UnusedBitsZero (first :: second :: third :: fourth :: rest) ↔ UnusedBitsZero rest := by
  cases rest with
  | nil => simp [UnusedBitsZero, Nat.mod_one]
  | cons next rest =>
      have exponent : (rest.length + 1 + 1 + 1 + 1 + 1) * 6 % 8 = (rest.length + 1) * 6 % 8 := by
        omega
      simp only [UnusedBitsZero, List.getLast?_cons_cons, List.length_cons, exponent]

theorem unusedBitsZero_last {value : Nat} (before : Bytes) {last : UInt8}
    (isValue : base64Value last = some value) :
    UnusedBitsZero (before ++ [last]) ↔ value % 2 ^ ((before.length + 1) * 6 % 8) = 0 := by
  simp only [UnusedBitsZero, List.getLast?_concat, Option.some.injEq, List.length_append,
    List.length_singleton]
  constructor
  · intro zero
    exact zero last value rfl isValue
  · rintro zero _ other rfl otherEq
    cases isValue.symm.trans otherEq
    exact zero

theorem Base64Data.value {data : Bytes} (isData : Base64Data data) (char : UInt8)
    (member : char ∈ data) : ∃ value, base64Value char = some value := by
  rw [← Option.isSome_iff_exists, base64Value_isSome_iff]
  exact isData.alphabet char member

theorem Base64Data.group {rest : Bytes}
    (isData : Base64Data (first :: second :: third :: fourth :: rest)) : Base64Data rest where
  alphabet := fun char member => isData.alphabet char (by simp [member])
  lengths := by
    have lengths := isData.lengths
    simp only [List.length_cons] at lengths
    omega

/-- Encoding gives decoded data back exactly if its unused bits are zero.  The
decoder works on groups of four characters, of which the last may be short. -/
theorem base64Encode_decoded : ∀ (data : Bytes) (acc : Nat) (bytes : Bytes),
    Base64Data data → base64DecodeFrom acc 0 data = some bytes →
      (base64Encode bytes = data ↔ UnusedBitsZero data)
  | [], _, _, _, decoded => by
      cases decoded
      simp [base64Encode, UnusedBitsZero]
  | [_], _, _, isData, _ => absurd rfl isData.lengths
  | [first, second], acc, bytes, isData, decoded => by
      obtain ⟨a, firstEq⟩ := isData.value first (by simp)
      obtain ⟨b, secondEq⟩ := isData.value second (by simp)
      obtain ⟨acc₁, -, two⟩ := base64DecodeFrom_two acc [] firstEq secondEq
      cases two.symm.trans decoded
      rw [base64Encode_two firstEq secondEq]
      simpa using (unusedBitsZero_last [first] secondEq).symm
  | [first, second, third], acc, bytes, isData, decoded => by
      obtain ⟨a, firstEq⟩ := isData.value first (by simp)
      obtain ⟨b, secondEq⟩ := isData.value second (by simp)
      obtain ⟨c, thirdEq⟩ := isData.value third (by simp)
      obtain ⟨acc₁, low₁, two⟩ := base64DecodeFrom_two acc [third] firstEq secondEq
      obtain ⟨acc₂, -, three⟩ := base64DecodeFrom_third acc₁ [] low₁ thirdEq
      rw [two, three] at decoded
      cases decoded
      rw [base64Encode_three firstEq secondEq thirdEq]
      simpa using (unusedBitsZero_last [first, second] thirdEq).symm
  | first :: second :: third :: fourth :: rest, acc, bytes, isData, decoded => by
      obtain ⟨a, firstEq⟩ := isData.value first (by simp)
      obtain ⟨b, secondEq⟩ := isData.value second (by simp)
      obtain ⟨c, thirdEq⟩ := isData.value third (by simp)
      obtain ⟨d, fourthEq⟩ := isData.value fourth (by simp)
      obtain ⟨acc₁, low₁, two⟩ := base64DecodeFrom_two acc (third :: fourth :: rest)
        firstEq secondEq
      obtain ⟨acc₂, low₂, three⟩ := base64DecodeFrom_third acc₁ (fourth :: rest) low₁ thirdEq
      obtain ⟨acc₃, four⟩ := base64DecodeFrom_fourth acc₂ rest low₂ fourthEq
      rw [two, three, four] at decoded
      simp only [Option.map_map, Option.map_eq_some_iff] at decoded
      obtain ⟨restBytes, restDecoded, rfl⟩ := decoded
      simp only [Function.comp_apply, base64Encode_four firstEq secondEq thirdEq fourthEq,
        List.cons.injEq, true_and, unusedBitsZero_group]
      exact base64Encode_decoded rest acc₃ restBytes isData.group restDecoded

/-- Base64 round-trips.  Encodings decode to what was encoded, with any padding
after them.  An accepted text is the encoding of its result, but for its padding,
exactly if its unused bits are zero.  And the accumulator's width plays no part. -/
theorem base64_round_trips :
    (∀ bytes count, base64Decode (base64Encode bytes ++ List.replicate count '='.toUInt8) =
      some bytes) ∧
    (∀ text bytes, base64Decode text = some bytes →
      (base64Encode bytes = text.rdropWhile (· == '='.toUInt8) ↔
        UnusedBitsZero (text.rdropWhile (· == '='.toUInt8)))) ∧
    (∀ text, base64Decode text = base64DecodeUnbounded text) := by
  refine ⟨base64Decode_padded, ?_, ?_⟩
  · intro text bytes decoded
    have accepted : (base64Decode text).isSome := by
      rw [decoded]
      rfl
    obtain ⟨data, count, isData, rfl⟩ := (base64Decode_isSome_iff text).mp accepted
    simp only [base64Decode, isData.stripped, if_neg isData.lengths] at decoded ⊢
    exact base64Encode_decoded data 0 bytes isData decoded
  · intro text
    simp only [base64Decode, base64DecodeUnbounded,
      base64DecodeFrom_eq_unbounded _ (rfl : 0 % 2 ^ 32 = 0 % 2 ^ 32) (by decide : 0 < 8)]

/-- The last character of the second text has a bit that no byte uses. -/
example : base64Decode (Bytes.ofString "Zg==") = base64Decode (Bytes.ofString "Zh==") := by
  decide

end Egrpc
