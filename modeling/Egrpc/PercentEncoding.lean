import Egrpc.Wire

/-!
# Percent-encoding

`grpc-message` travels percent-encoded.  An encoder may write every byte but `%`
as it is or as `%` and two hexadecimal digits, and `%` in the second way only.
`PercentDecode` undoes every such encoding.  On any other input it splits the
text into tokens from left to right: a `%` that two hexadecimal digits follow
starts an escape, and every other byte stands for itself.  What a hexadecimal digit
is and which value it has is said here by the two rows of digits, apart from
`HexDigit`.
-/

namespace Egrpc

/-- The hexadecimal digits of either case, each row in the order of the values. -/
def hexDigits : List Bytes :=
  [Bytes.ofString "0123456789abcdef", Bytes.ofString "0123456789ABCDEF"]

/-- The character is a hexadecimal digit with this value. -/
def HexDenotes (char : UInt8) (value : Nat) : Prop :=
  ∃ digits ∈ hexDigits, digits[value]? = some char

instance (char : UInt8) (value : Nat) : Decidable (HexDenotes char value) :=
  inferInstanceAs (Decidable (∃ digits ∈ hexDigits, digits[value]? = some char))

def isHexDigit (char : UInt8) : Bool :=
  hexDigits.any fun digits => digits.contains char

/-- `HexDigit` knows the digits of both rows, their values and no others. -/
theorem hexDigit_eq_some_iff {char : UInt8} {value : Nat} :
    hexDigit char = some value ↔ HexDenotes char value := by
  constructor
  · intro known
    have table : ∀ char, ∀ value ∈ hexDigit char, HexDenotes char value :=
      Bytes.forall_byte (by decide +kernel)
    exact table char value known
  · rintro ⟨digits, row, isDigit⟩
    have table : ∀ digits ∈ hexDigits, digits.length = 16 ∧ ∀ index : Fin 16,
        ∀ char ∈ digits[index.val]?, hexDigit char = some index.val := by
      decide +kernel
    obtain ⟨length, values⟩ := table digits row
    have inside : value < 16 := length ▸ (List.getElem?_eq_some_iff.mp isDigit).1
    exact values ⟨value, inside⟩ char isDigit

theorem HexDenotes.unique {char : UInt8} {value other : Nat} (denotes : HexDenotes char value)
    (otherDenotes : HexDenotes char other) : value = other := by
  rw [← hexDigit_eq_some_iff] at denotes otherDenotes
  exact Option.some.inj (denotes.symm.trans otherDenotes)

theorem isHexDigit_iff {char : UInt8} :
    isHexDigit char = true ↔ ∃ value, HexDenotes char value := by
  rw [isHexDigit, List.any_eq_true]
  constructor
  · rintro ⟨digits, row, member⟩
    obtain ⟨value, isDigit⟩ := List.mem_iff_getElem?.mp (List.contains_iff_mem.mp member)
    exact ⟨value, digits, row, isDigit⟩
  · rintro ⟨value, digits, row, isDigit⟩
    exact ⟨digits, row, List.contains_iff_mem.mpr (List.mem_of_getElem? isDigit)⟩

/-- Some encoder that conforms writes the first string as the second. -/
inductive PercentEncodes : Bytes → Bytes → Prop
  | nil : PercentEncodes [] []
  | literal {byte : UInt8} {decoded written : Bytes} (plain : byte ≠ '%'.toUInt8)
      (rest : PercentEncodes decoded written) :
      PercentEncodes (byte :: decoded) (byte :: written)
  | escaped {byte high low : UInt8} {hi lo : Nat} {decoded written : Bytes}
      (highDigit : HexDenotes high hi) (lowDigit : HexDenotes low lo)
      (value : byte.toNat = hi * 16 + lo) (rest : PercentEncodes decoded written) :
      PercentEncodes (byte :: decoded) ('%'.toUInt8 :: high :: low :: written)

/-- A token of a percent-encoded text. -/
inductive PercentToken
  | literal (byte : UInt8)
  | escape (high low : UInt8) (hi lo : Nat) (highDigit : HexDenotes high hi)
      (lowDigit : HexDenotes low lo)

namespace PercentToken

def text : PercentToken → Bytes
  | .literal byte => [byte]
  | .escape high low _ _ _ _ => ['%'.toUInt8, high, low]

def byte : PercentToken → UInt8
  | .literal byte => byte
  | .escape _ _ hi lo _ _ => UInt8.ofNat (hi * 16 + lo)

end PercentToken

/-- The text begins with two hexadecimal digits. -/
def startsWithHexPair : Bytes → Bool
  | high :: low :: _ => isHexDigit high && isHexDigit low
  | _ => false

theorem startsWithHexPair_iff {text : Bytes} :
    startsWithHexPair text = true ↔ ∃ high low rest hi lo, text = high :: low :: rest ∧
      HexDenotes high hi ∧ HexDenotes low lo := by
  constructor
  · intro pair
    match text with
    | [] | [_] => cases pair
    | high :: low :: rest =>
        rw [startsWithHexPair, Bool.and_eq_true] at pair
        obtain ⟨hi, highDigit⟩ := isHexDigit_iff.mp pair.1
        obtain ⟨lo, lowDigit⟩ := isHexDigit_iff.mp pair.2
        exact ⟨high, low, rest, hi, lo, rfl, highDigit, lowDigit⟩
  · rintro ⟨high, low, rest, hi, lo, rfl, highDigit, lowDigit⟩
    rw [startsWithHexPair, Bool.and_eq_true]
    exact ⟨isHexDigit_iff.mpr ⟨hi, highDigit⟩, isHexDigit_iff.mpr ⟨lo, lowDigit⟩⟩

/-- No token passes over the start of an escape. -/
def LeftToRight : List PercentToken → Prop
  | [] => True
  | .literal byte :: tokens =>
      ¬ (byte = '%'.toUInt8 ∧ startsWithHexPair (tokens.flatMap PercentToken.text) = true) ∧
        LeftToRight tokens
  | .escape .. :: tokens => LeftToRight tokens

/-! ## One token at a time -/

theorem percentDecode_literal {byte : UInt8} {rest : Bytes}
    (plain : ¬ (byte = '%'.toUInt8 ∧ startsWithHexPair rest = true)) :
    percentDecode (byte :: rest) = byte :: percentDecode rest := by
  match rest with
  | [] => rfl
  | [_] => rfl
  | high :: low :: rest =>
      rw [percentDecode]
      split_ifs with percent
      · split
        · rename_i highDigit lowDigit
          exact absurd ⟨percent, startsWithHexPair_iff.mpr ⟨high, low, rest, _, _, rfl,
            hexDigit_eq_some_iff.mp highDigit, hexDigit_eq_some_iff.mp lowDigit⟩⟩ plain
        · rfl
      · rfl

theorem percentDecode_escape {high low : UInt8} {hi lo : Nat}
    (highDigit : HexDenotes high hi) (lowDigit : HexDenotes low lo) (rest : Bytes) :
    percentDecode ('%'.toUInt8 :: high :: low :: rest) =
      UInt8.ofNat (hi * 16 + lo) :: percentDecode rest := by
  rw [percentDecode, if_pos rfl]
  simp only [hexDigit_eq_some_iff.mpr highDigit, hexDigit_eq_some_iff.mpr lowDigit]

/-- What any encoder that conforms wrote is decoded. -/
theorem PercentEncodes.decodes {decoded written : Bytes}
    (encodes : PercentEncodes decoded written) : percentDecode written = decoded := by
  induction encodes with
  | nil => rfl
  | literal plain rest ih => rw [percentDecode_literal fun percent => plain percent.1, ih]
  | escaped highDigit lowDigit value rest ih =>
      rw [percentDecode_escape highDigit lowDigit, ih, ← value, UInt8.ofNat_toNat]

theorem LeftToRight.decodes {tokens : List PercentToken} (ordered : LeftToRight tokens) :
    percentDecode (tokens.flatMap PercentToken.text) = tokens.map PercentToken.byte := by
  induction tokens with
  | nil => rfl
  | cons token tokens ih =>
      cases token with
      | literal byte =>
          obtain ⟨plain, ordered⟩ := ordered
          exact (percentDecode_literal plain).trans (congrArg (byte :: ·) (ih ordered))
      | escape high low hi lo highDigit lowDigit =>
          exact (percentDecode_escape highDigit lowDigit _).trans
            (congrArg (UInt8.ofNat (hi * 16 + lo) :: ·) (ih ordered))

/-- A byte that starts no escape is a token in front of any others. -/
theorem exists_leftToRight_literal {byte : UInt8} {rest : Bytes}
    (plain : ¬ (byte = '%'.toUInt8 ∧ startsWithHexPair rest = true))
    (split : ∃ tokens : List PercentToken, tokens.flatMap PercentToken.text = rest ∧
      LeftToRight tokens) :
    ∃ tokens : List PercentToken, tokens.flatMap PercentToken.text = byte :: rest ∧
      LeftToRight tokens := by
  obtain ⟨tokens, rfl, ordered⟩ := split
  exact ⟨.literal byte :: tokens, rfl, plain, ordered⟩

theorem exists_leftToRight (input : Bytes) :
    ∃ tokens : List PercentToken, tokens.flatMap PercentToken.text = input ∧
      LeftToRight tokens := by
  induction input using percentDecode.induct with
  | case1 high low rest hi lo lowDigit highDigit ih =>
      obtain ⟨tokens, rfl, ordered⟩ := ih
      exact ⟨.escape high low hi lo (hexDigit_eq_some_iff.mp highDigit)
        (hexDigit_eq_some_iff.mp lowDigit) :: tokens, rfl, ordered⟩
  | case2 high low rest noPair ih =>
      refine exists_leftToRight_literal ?_ ih
      rintro ⟨-, pair⟩
      obtain ⟨_, _, _, hi, lo, shape, highDigit, lowDigit⟩ := startsWithHexPair_iff.mp pair
      cases shape
      exact noPair hi lo (hexDigit_eq_some_iff.mpr highDigit)
        (hexDigit_eq_some_iff.mpr lowDigit)
  | case3 char high low rest plain ih =>
      exact exists_leftToRight_literal (fun percent => plain percent.1) ih
  | case4 char rest short ih =>
      refine exists_leftToRight_literal ?_ ih
      rintro ⟨-, pair⟩
      obtain ⟨high, low, rest', _, _, shape, -⟩ := startsWithHexPair_iff.mp pair
      exact short high low rest' shape
  | case5 => exact ⟨[], rfl, trivial⟩

/-- A literal token and an escape do not begin the same text. -/
theorem LeftToRight.literal_ne_escape {byte high low : UInt8} {hi lo : Nat}
    {tokens others : List PercentToken} (ordered : LeftToRight (.literal byte :: tokens))
    (highDigit : HexDenotes high hi) (lowDigit : HexDenotes low lo)
    (sameText : (PercentToken.literal byte :: tokens).flatMap PercentToken.text =
      (PercentToken.escape high low hi lo highDigit lowDigit :: others).flatMap
        PercentToken.text) : False := by
  obtain ⟨percent, restEq⟩ := List.cons.inj sameText
  exact ordered.1 ⟨percent,
    startsWithHexPair_iff.mpr ⟨_, _, _, hi, lo, restEq, highDigit, lowDigit⟩⟩

theorem LeftToRight.unique {tokens others : List PercentToken}
    (ordered : LeftToRight tokens) (otherOrdered : LeftToRight others)
    (sameText : tokens.flatMap PercentToken.text = others.flatMap PercentToken.text) :
    tokens = others := by
  induction tokens generalizing others with
  | nil =>
      cases others with
      | nil => rfl
      | cons other others => cases other <;> cases sameText
  | cons token tokens ih =>
      cases others with
      | nil => cases token <;> cases sameText
      | cons other others =>
          cases token with
          | literal byte =>
              cases other with
              | literal otherByte =>
                  obtain ⟨rfl, restEq⟩ := List.cons.inj sameText
                  rw [ih ordered.2 otherOrdered.2 restEq]
              | escape high low hi lo highDigit lowDigit =>
                  exact (ordered.literal_ne_escape highDigit lowDigit sameText).elim
          | escape high low hi lo highDigit lowDigit =>
              cases other with
              | literal otherByte =>
                  exact (otherOrdered.literal_ne_escape highDigit lowDigit
                    sameText.symm).elim
              | escape high' low' hi' lo' highDigit' lowDigit' =>
                  obtain ⟨rfl, tail⟩ := List.cons.inj (List.cons.inj sameText).2
                  obtain ⟨rfl, restEq⟩ := List.cons.inj tail
                  obtain rfl := highDigit.unique highDigit'
                  obtain rfl := lowDigit.unique lowDigit'
                  have restOrdered : LeftToRight others := otherOrdered
                  rw [ih ordered restOrdered restEq]

/-- A text without an escape is a text of literal tokens. -/
theorem percentDecode_of_no_escape (input : Bytes)
    (none : ∀ before after, input = before ++ '%'.toUInt8 :: after →
      startsWithHexPair after = false) : percentDecode input = input := by
  induction input with
  | nil => rfl
  | cons byte input ih =>
      have plain : ¬ (byte = '%'.toUInt8 ∧ startsWithHexPair input = true) := by
        rintro ⟨rfl, pair⟩
        rw [none [] input rfl] at pair
        cases pair
      rw [percentDecode_literal plain, ih]
      intro before after inputEq
      exact none (byte :: before) after (by rw [inputEq, List.cons_append])

/-- `PercentDecode` inverts every encoder that conforms.  On every input it yields
the bytes denoted by the tokens of the only left-to-right split of the input, whose
texts make up the input; and it returns a text without an escape unchanged. -/
theorem percentDecode_inverts_and_scans :
    (∀ decoded written, PercentEncodes decoded written → percentDecode written = decoded) ∧
    (∀ input, ∃ tokens : List PercentToken,
      (tokens.flatMap PercentToken.text = input ∧ LeftToRight tokens) ∧
      (∀ others : List PercentToken, others.flatMap PercentToken.text = input →
        LeftToRight others → others = tokens) ∧
      percentDecode input = tokens.map PercentToken.byte) ∧
    (∀ input, (∀ before after, input = before ++ '%'.toUInt8 :: after →
      startsWithHexPair after = false) → percentDecode input = input) := by
  refine ⟨fun _ _ encodes => encodes.decodes, ?_, percentDecode_of_no_escape⟩
  intro input
  obtain ⟨tokens, rfl, ordered⟩ := exists_leftToRight input
  refine ⟨tokens, ⟨rfl, ordered⟩, ?_, ordered.decodes⟩
  intro others sameText otherOrdered
  exact otherOrdered.unique ordered sameText

/-- Candidates that overlap, and one cut off by the end. -/
example : percentDecode (Bytes.ofString "%254%4a%4A%%41%4") =
    Bytes.ofString "%4JJ%A%4" := by
  decide

end Egrpc
