import Mathlib.Data.Nat.Bitwise
import Mathlib.Data.UInt

/-!
# Byte strings

A C++ string is a list of bytes.  This file has the conversions of the C and
C++ standard libraries that the models use on such lists (decimal rendering and
parsing), and the big-endian encoding of 32-bit words.
-/

/-- A C++ `std::string`: a sequence of bytes. -/
abbrev Bytes := List UInt8

namespace Bytes

/-- The bytes of an ASCII string literal. -/
def ofString (text : String) : Bytes :=
  text.toList.map fun char => UInt8.ofNat char.toNat

/-- `std::to_string` of an unsigned integer. -/
def decimal (number : Nat) : Bytes :=
  (Nat.toDigits 10 number).map fun char => UInt8.ofNat char.toNat

/-- `std::to_string` of a signed integer. -/
def decimalInt (number : Int) : Bytes :=
  if number < 0 then '-'.toUInt8 :: decimal number.natAbs
  else decimal number.natAbs

/-- `c >= '0' && c <= '9'`. -/
def isDigit (byte : UInt8) : Bool :=
  decide ('0'.toUInt8 ≤ byte) && decide (byte ≤ '9'.toUInt8)

/-- The number a string of decimal digits denotes. -/
def digitsValue (digits : Bytes) : Nat :=
  digits.foldl (fun value digit => value * 10 + (digit.toNat - 48)) 0

/-- `std::string::find` of a byte: its first position. -/
def find (text : Bytes) (byte : UInt8) : Option Nat :=
  text.idxOf? byte

/-- `std::string::rfind` of a byte: its last position. -/
def rfind (text : Bytes) (byte : UInt8) : Option Nat :=
  (find text.reverse byte).map (text.length - 1 - ·)

/-- `isspace` in the C locale: the space and the control characters 9 to 13. -/
def isSpace (byte : UInt8) : Bool :=
  byte == ' '.toUInt8 || (decide (9 ≤ byte) && decide (byte ≤ 13))

/-- `std::atoi` on a C string: `strtol` in base ten, which saturates at the
range of `long`, narrowed to a 32-bit `int`. -/
def atoi (text : Bytes) : Int :=
  let trimmed := (text.takeWhile (· != 0)).dropWhile isSpace
  let negative := trimmed.head? == some '-'.toUInt8
  let unsigned :=
    if negative || trimmed.head? == some '+'.toUInt8 then trimmed.tail
    else trimmed
  let magnitude : Int := digitsValue (unsigned.takeWhile isDigit)
  let long :=
    if negative then max (-(2 ^ 63)) (-magnitude) else min (2 ^ 63 - 1) magnitude
  Int.bmod long (2 ^ 32)

/-- What a table of the 256 bytes shows holds for every byte. -/
theorem forall_byte {holds : UInt8 → Prop}
    (table : ∀ index : Fin 256, holds (UInt8.ofNat index.val)) (byte : UInt8) :
    holds byte := by
  have entry := table ⟨byte.toNat, byte.toNat_lt⟩
  rwa [UInt8.ofNat_toNat] at entry

theorem find_of_not_mem {text : Bytes} {byte : UInt8} (absent : byte ∉ text) :
    find text byte = none := by
  rw [find, List.idxOf?_eq_none_iff]
  exact absent

theorem find_append {before : Bytes} {byte : UInt8} (absent : byte ∉ before)
    (after : Bytes) : find (before ++ byte :: after) byte = some before.length := by
  unfold find
  induction before with
  | nil => simp [List.idxOf?_cons]
  | cons first before ih =>
      rw [List.mem_cons, not_or] at absent
      rw [List.cons_append, List.idxOf?_cons, if_neg (by simpa using Ne.symm absent.1),
        ih absent.2]
      rfl

theorem rfind_of_not_mem {text : Bytes} {byte : UInt8} (absent : byte ∉ text) :
    rfind text byte = none := by
  rw [rfind, find_of_not_mem (by simpa using absent)]
  rfl

theorem rfind_append (before : Bytes) {byte : UInt8} {after : Bytes}
    (absent : byte ∉ after) :
    rfind (before ++ byte :: after) byte = some before.length := by
  have reversed : (before ++ byte :: after).reverse =
      after.reverse ++ byte :: before.reverse := by simp
  rw [rfind, reversed, find_append (by simpa using absent)]
  simp only [Option.map_some, List.length_append, List.length_cons,
    List.length_reverse, Option.some.injEq]
  omega

/-- A byte that occurs again is last found there. -/
theorem exists_rfind_append (before : Bytes) {byte : UInt8} {after : Bytes}
    (again : byte ∈ after) :
    ∃ last, rfind (before ++ byte :: after) byte = some last ∧
      before.length < last := by
  obtain ⟨after', between, reversed, absent⟩ :=
    List.eq_append_cons_of_mem (List.mem_reverse.mpr again)
  have afterEq : after = between.reverse ++ byte :: after'.reverse := by
    rw [← List.reverse_reverse after, reversed]
    simp
  refine ⟨(before ++ byte :: between.reverse).length, ?_, by simp⟩
  rw [afterEq, ← List.cons_append, ← List.append_assoc]
  exact rfind_append _ (by simpa using absent)

theorem toNat_sub_le_of_isDigit {digit : UInt8}
    (digital : isDigit digit = true) : digit.toNat - 48 ≤ 9 := by
  have high := (Bool.and_eq_true_iff.mp digital).2
  have nine : '9'.toUInt8.toNat = 57 := rfl
  rw [decide_eq_true_eq, UInt8.le_iff_toNat_le, nine] at high
  omega

theorem le_foldl_digits (digits : Bytes) (value : Nat) :
    value ≤ digits.foldl (fun value digit => value * 10 + (digit.toNat - 48)) value := by
  induction digits generalizing value with
  | nil => exact le_rfl
  | cons digit digits ih =>
      rw [List.foldl_cons]
      exact le_trans (by omega) (ih _)

/-- The digits of a number are ASCII. -/
theorem toNat_digit {number : Nat} {char : Char}
    (member : char ∈ Nat.toDigits 10 number) :
    (UInt8.ofNat char.toNat).toNat = char.toNat ∧ 48 ≤ char.toNat ∧ char.toNat ≤ 57 := by
  have isDigit := Nat.isDigit_of_mem_toDigits (by decide) (by decide) member
  simp only [Char.isDigit, Bool.and_eq_true, decide_eq_true_eq, ge_iff_le,
    UInt32.le_iff_toNat_le] at isDigit
  have low : 48 ≤ char.toNat := isDigit.1
  have high : char.toNat ≤ 57 := isDigit.2
  rw [UInt8.toNat_ofNat']
  omega

theorem digitsValue_decimal (number : Nat) : digitsValue (decimal number) = number := by
  have values : digitsValue (decimal number) =
      Nat.ofDigitChars 10 (Nat.toDigits 10 number) 0 := by
    rw [digitsValue, decimal, List.foldl_map, Nat.ofDigitChars_eq_foldl]
    refine List.foldl_ext _ _ 0 ?_
    intro value char member
    rw [(toNat_digit member).1, Nat.mul_comm]
    rfl
  rw [values, Nat.ofDigitChars_ten_toDigits]

theorem decimal_all_isDigit (number : Nat) : (decimal number).all isDigit = true := by
  rw [List.all_eq_true]
  intro byte member
  obtain ⟨char, charMember, rfl⟩ := List.mem_map.mp member
  obtain ⟨same, low, high⟩ := toNat_digit charMember
  have zero : '0'.toUInt8.toNat = 48 := rfl
  have nine : '9'.toUInt8.toNat = 57 := rfl
  simp only [isDigit, Bool.and_eq_true, decide_eq_true_eq, UInt8.le_iff_toNat_le]
  omega

theorem decimal_length_pos (number : Nat) : 1 ≤ (decimal number).length := by
  rw [decimal, List.length_map]
  exact Nat.length_toDigits_pos

theorem decimal_length_le {number count : Nat} (positive : 0 < count)
    (bounded : number < 10 ^ count) : (decimal number).length ≤ count := by
  rw [decimal, List.length_map]
  exact (Nat.length_toDigits_le_iff (by decide) positive).mpr bounded

theorem decimal_injective {number other : Nat} (same : decimal number = decimal other) :
    number = other := by
  rw [← digitsValue_decimal number, same, digitsValue_decimal]

theorem decimalInt_injective {number other : Int}
    (same : decimalInt number = decimalInt other) : number = other := by
  have noSign : ∀ value : Nat, ∀ rest, decimal value ≠ '-'.toUInt8 :: rest := by
    intro value rest signed
    have member : '-'.toUInt8 ∈ decimal value := signed ▸ List.mem_cons_self
    obtain ⟨char, charMember, charEq⟩ := List.mem_map.mp member
    have digit := toNat_digit charMember
    have code := congrArg UInt8.toNat charEq
    have sign : '-'.toUInt8.toNat = 45 := rfl
    omega
  unfold decimalInt at same
  split_ifs at same with negative otherNegative otherNegative
  · have sizes := decimal_injective (List.cons.inj same).2
    omega
  · exact absurd same.symm (noSign _ _)
  · exact absurd same (noSign _ _)
  · have sizes := decimal_injective same
    omega

/-- Texts that differ within their first bytes differ however they go on. -/
theorem append_ne_append (first second : Bytes) (count : Nat)
    (firstLong : count ≤ first.length) (secondLong : count ≤ second.length)
    (differ : first.take count ≠ second.take count) (rest other : Bytes) :
    first ++ rest ≠ second ++ other := by
  intro same
  apply differ
  have fronts := congrArg (List.take count) same
  rwa [List.take_append_of_le_length firstLong,
    List.take_append_of_le_length secondLong] at fronts

/-- The big-endian encoding of a 32-bit word. -/
def bigEndian32 (word : Nat) : Bytes :=
  [UInt8.ofNat (word / 2 ^ 24), UInt8.ofNat (word / 2 ^ 16),
    UInt8.ofNat (word / 2 ^ 8), UInt8.ofNat word]

@[simp]
theorem bigEndian32_length (word : Nat) : (bigEndian32 word).length = 4 :=
  rfl

theorem bigEndian32_digits {word : Nat} (bounded : word < 2 ^ 32) :
    (UInt8.ofNat (word / 2 ^ 24)).toNat * 2 ^ 24 +
      (UInt8.ofNat (word / 2 ^ 16)).toNat * 2 ^ 16 +
      (UInt8.ofNat (word / 2 ^ 8)).toNat * 2 ^ 8 +
      (UInt8.ofNat word).toNat = word := by
  simp only [UInt8.toNat_ofNat']
  omega

/-- Four bytes are recovered from the word they encode. -/
theorem bigEndian32_of_digits (first second third fourth : UInt8) :
    bigEndian32 (first.toNat * 2 ^ 24 + second.toNat * 2 ^ 16 +
      third.toNat * 2 ^ 8 + fourth.toNat) =
      [first, second, third, fourth] := by
  have firstLt := first.toNat_lt
  have secondLt := second.toNat_lt
  have thirdLt := third.toNat_lt
  have fourthLt := fourth.toNat_lt
  simp only [bigEndian32, List.cons.injEq, ← UInt8.toNat_inj,
    UInt8.toNat_ofNat', and_true]
  refine ⟨?_, ?_, ?_, ?_⟩ <;> omega

/-- Shifting four bytes into place and or-ing them adds their weights. -/
theorem shiftLeft_or_digits (first second third fourth : UInt8) :
    (first.toNat <<< 24 ||| second.toNat <<< 16 ||| third.toNat <<< 8 |||
      fourth.toNat) =
      first.toNat * 2 ^ 24 + second.toNat * 2 ^ 16 + third.toNat * 2 ^ 8 +
        fourth.toNat := by
  have secondLt := second.toNat_lt
  have thirdLt := third.toNat_lt
  have fourthLt := fourth.toNat_lt
  have high : first.toNat <<< 24 ||| second.toNat <<< 16 =
      (first.toNat * 2 ^ 8 + second.toNat) <<< 16 := by
    rw [← Nat.shiftLeft_add_eq_or_of_lt (by simp [Nat.shiftLeft_eq]; omega)]
    simp only [Nat.shiftLeft_eq]
    omega
  have middle : (first.toNat * 2 ^ 8 + second.toNat) <<< 16 |||
      third.toNat <<< 8 =
      ((first.toNat * 2 ^ 8 + second.toNat) * 2 ^ 8 + third.toNat) <<< 8 := by
    rw [← Nat.shiftLeft_add_eq_or_of_lt (by simp [Nat.shiftLeft_eq]; omega)]
    simp only [Nat.shiftLeft_eq]
    omega
  rw [high, middle, ← Nat.shiftLeft_add_eq_or_of_lt (by omega)]
  simp only [Nat.shiftLeft_eq]
  omega

end Bytes
