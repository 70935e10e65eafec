import Egrpc.Wire

/-!
# The value of `grpc-timeout`

A timeout goes over the wire as a count of one of six units.  The encoder takes
the finest unit whose count, rounded up, fits eight digits.  The deadline that the
server computes is therefore never earlier than the local one, later by less than
a unit, and in the same order as the timeouts across all changes of unit.
-/

namespace Egrpc

/-- The units that the protocol knows, with their lengths in nanoseconds: nanoseconds,
microseconds, milliseconds, seconds, minutes and hours. -/
def timeoutUnits : List (Char × Int) :=
  [('n', 1), ('u', 1000), ('m', 1000 * 1000), ('S', 1000 * 1000 * 1000),
    ('M', 60 * (1000 * 1000 * 1000)), ('H', 60 * 60 * (1000 * 1000 * 1000))]

theorem kUnits_eq_timeoutUnits : kUnits = timeoutUnits := by
  decide

/-- A `grpc-timeout` value: one to eight digits and a unit. -/
structure GrpcTimeout where
  digits : Bytes
  unit : Char × Int
  known : unit ∈ timeoutUnits
  numeric : digits.all Bytes.isDigit = true
  nonempty : 1 ≤ digits.length
  short : digits.length ≤ 8

namespace GrpcTimeout

def text (timeout : GrpcTimeout) : Bytes :=
  timeout.digits ++ [timeout.unit.1.toUInt8]

/-- The time it denotes, in nanoseconds. -/
def nanos (timeout : GrpcTimeout) : Int :=
  Bytes.digitsValue timeout.digits * timeout.unit.2

theorem nanos_eq_of_text_eq {timeout other : GrpcTimeout} (same : timeout.text = other.text) :
    timeout.nanos = other.nanos := by
  have suffixes : ∀ unit ∈ timeoutUnits, ∀ other ∈ timeoutUnits,
      unit.1.toUInt8 = other.1.toUInt8 → unit = other := by
    decide
  obtain ⟨digitsEq, suffixEq⟩ := List.append_inj' same rfl
  have unitEq := suffixes _ timeout.known _ other.known (List.cons.inj suffixEq).1
  rw [nanos, nanos, digitsEq, unitEq]

end GrpcTimeout

/-- The count of units that covers a timeout, as the encoder computes it. -/
def roundedUp (ns nanos : Int) : Int :=
  ns.tdiv nanos + if ns.tmod nanos ≠ 0 then 1 else 0

/-- A 64-bit computation yields the number. -/
def InInt64 (number : Int) : Prop :=
  -(2 ^ 63) ≤ number ∧ number < 2 ^ 63

theorem kUnits_positive : ∀ unit ∈ kUnits, 0 < unit.2 := by
  decide

theorem kUnits_ordered : kUnits.Pairwise fun finer coarser => finer.2 < coarser.2 := by
  decide

/-- Rounding up gives the least count of units that is long enough. -/
theorem roundedUp_le_iff {ns nanos : Int} (positive : 0 < ns) (unitPositive : 0 < nanos)
    (count : Int) : roundedUp ns nanos ≤ count ↔ ns ≤ count * nanos := by
  have division := Int.mul_tdiv_add_tmod ns nanos
  have nonneg := Int.tmod_nonneg nanos positive.le
  have small := Int.tmod_lt_of_pos ns unitPositive
  have scaled : ∀ {less more : Int}, less ≤ more → nanos * less ≤ nanos * more :=
    fun less => Int.mul_le_mul_of_nonneg_left less unitPositive.le
  rw [roundedUp, Int.mul_comm count]
  split_ifs with remainder
  · constructor
    · intro fits
      have bound := scaled fits
      rw [Int.mul_add] at bound
      omega
    · intro covers
      by_contra exceeds
      have bound := scaled (Int.lt_add_one_iff.mp (not_le.mp exceeds))
      omega
  · constructor
    · intro fits
      have bound := scaled fits
      rw [Int.mul_add] at bound
      omega
    · intro covers
      by_contra exceeds
      have bound := scaled (Int.add_one_le_iff.mpr (not_le.mp exceeds))
      rw [Int.mul_add, Int.mul_add] at bound
      omega

theorem le_roundedUp_mul {ns nanos : Int} (positive : 0 < ns) (unitPositive : 0 < nanos) :
    ns ≤ roundedUp ns nanos * nanos :=
  (roundedUp_le_iff positive unitPositive _).mp le_rfl

theorem roundedUp_mul_lt {ns nanos : Int} (positive : 0 < ns) (unitPositive : 0 < nanos) :
    roundedUp ns nanos * nanos < ns + nanos := by
  have less : ¬ ns ≤ (roundedUp ns nanos - 1) * nanos := by
    rw [← roundedUp_le_iff positive unitPositive]
    omega
  rw [sub_mul] at less
  omega

theorem roundedUp_pos {ns nanos : Int} (positive : 0 < ns) (unitPositive : 0 < nanos) :
    0 < roundedUp ns nanos := by
  by_contra notPositive
  have covers := (roundedUp_le_iff positive unitPositive 0).mp (by omega)
  omega

/-! ## The choice of the unit -/

/-- The unit is the finest whose count fits. -/
structure Chosen (ns : Int) (unit : Char × Int) : Prop where
  known : unit ∈ kUnits
  fits : ns ≤ kMaxTimeoutDigitsValue * unit.2
  finest : ∀ finer ∈ kUnits, finer.2 < unit.2 → kMaxTimeoutDigitsValue * finer.2 < ns

/-- Hours fit whatever a 64-bit timeout is, so the search does not fail. -/
theorem find_isSome {ns : Int} (positive : 0 < ns) (bounded : ns < 2 ^ 63) :
    (kUnits.find? fun unit =>
      decide (roundedUp ns unit.2 ≤ kMaxTimeoutDigitsValue)).isSome := by
  rw [List.find?_isSome]
  refine ⟨('H', 3600000000000), by decide, ?_⟩
  rw [decide_eq_true_eq, roundedUp_le_iff positive (by decide), kMaxTimeoutDigitsValue]
  omega

theorem chosen_of_find {ns : Int} {unit : Char × Int} (positive : 0 < ns)
    (found : kUnits.find? (fun unit =>
      decide (roundedUp ns unit.2 ≤ kMaxTimeoutDigitsValue)) = some unit) :
    Chosen ns unit := by
  have known := List.mem_of_find?_eq_some found
  obtain ⟨fits, before, after, unitsEq, passed⟩ := List.find?_eq_some_iff_append.mp found
  rw [decide_eq_true_eq, roundedUp_le_iff positive (kUnits_positive unit known)] at fits
  refine ⟨known, fits, ?_⟩
  intro finer finerKnown finerLt
  -- the units are ordered, so a finer one stands before the one found
  have ordered := kUnits_ordered
  rw [unitsEq, List.pairwise_append, List.pairwise_cons] at ordered
  have isBefore : finer ∈ before := by
    rw [unitsEq, List.mem_append, List.mem_cons] at finerKnown
    rcases finerKnown with earlier | rfl | later
    · exact earlier
    · omega
    · have coarser := ordered.2.1.1 finer later
      omega
  have tooLong := passed finer isBefore
  rw [Bool.not_eq_true', decide_eq_false_iff_not, roundedUp_le_iff positive
    (kUnits_positive finer (unitsEq ▸ List.mem_append_left _ isBefore))] at tooLong
  omega

theorem encodeGrpcTimeout_of_nonpos {ns : Int} (nonpos : ns ≤ 0) :
    encodeGrpcTimeout ns = Bytes.ofString "1n" := by
  rw [encodeGrpcTimeout, if_pos nonpos]

/-- A positive timeout is encoded in the unit chosen. -/
theorem encodeGrpcTimeout_chosen {ns : Int} (positive : 0 < ns) (bounded : ns < 2 ^ 63) :
    ∃ unit, Chosen ns unit ∧ encodeGrpcTimeout ns =
      Bytes.decimal (roundedUp ns unit.2).natAbs ++ [unit.1.toUInt8] := by
  obtain ⟨unit, found⟩ := Option.isSome_iff_exists.mp (find_isSome positive bounded)
  have chosen := chosen_of_find positive found
  refine ⟨unit, chosen, ?_⟩
  have countPositive := roundedUp_pos positive (kUnits_positive unit chosen.known)
  have encoded : encodeGrpcTimeout ns =
      Bytes.decimalInt (roundedUp ns unit.2) ++ [unit.1.toUInt8] := by
    unfold roundedUp at found ⊢
    simp only [encodeGrpcTimeout, if_neg (not_le.mpr positive), found]
  rw [encoded, Bytes.decimalInt, if_neg (by omega)]

/-- The timeout that the encoder writes for a positive time. -/
theorem exists_grpcTimeout {ns : Int} (positive : 0 < ns) (bounded : ns < 2 ^ 63) :
    ∃ timeout : GrpcTimeout, encodeGrpcTimeout ns = timeout.text ∧ Chosen ns timeout.unit ∧
      timeout.nanos = roundedUp ns timeout.unit.2 * timeout.unit.2 := by
  obtain ⟨unit, chosen, encoded⟩ := encodeGrpcTimeout_chosen positive bounded
  have unitPositive := kUnits_positive unit chosen.known
  have countPositive := roundedUp_pos positive unitPositive
  have countFits := (roundedUp_le_iff positive unitPositive _).mpr chosen.fits
  rw [kMaxTimeoutDigitsValue] at countFits
  refine ⟨{
    digits := Bytes.decimal (roundedUp ns unit.2).natAbs
    unit := unit
    known := kUnits_eq_timeoutUnits ▸ chosen.known
    numeric := Bytes.decimal_all_isDigit _
    nonempty := Bytes.decimal_length_pos _
    short := Bytes.decimal_length_le (by decide) (by omega) }, encoded, chosen, ?_⟩
  rw [GrpcTimeout.nanos, Bytes.digitsValue_decimal, Int.natAbs_of_nonneg countPositive.le]

/-- A longer timeout is encoded in the same unit or a coarser one. -/
theorem Chosen.unit_le {ns later : Int} {unit laterUnit : Char × Int}
    (chosen : Chosen ns unit) (laterChosen : Chosen later laterUnit)
    (ordered : ns ≤ later) : unit.2 ≤ laterUnit.2 := by
  by_contra finer
  have tooLong := chosen.finest laterUnit laterChosen.known (not_le.mp finer)
  have fits := laterChosen.fits
  omega

theorem Chosen.roundedUp_le {ns later : Int} {unit laterUnit : Char × Int}
    (chosen : Chosen ns unit) (laterChosen : Chosen later laterUnit) (positive : 0 < ns)
    (ordered : ns ≤ later) :
    roundedUp ns unit.2 * unit.2 ≤ roundedUp later laterUnit.2 * laterUnit.2 := by
  have laterPositive : 0 < later := by omega
  have unitPositive := kUnits_positive unit chosen.known
  have covered := le_roundedUp_mul laterPositive (kUnits_positive _ laterChosen.known)
  rcases (chosen.unit_le laterChosen ordered).eq_or_lt with same | coarser
  · rw [← same] at covered ⊢
    exact Int.mul_le_mul_of_nonneg_right
      ((roundedUp_le_iff positive unitPositive _).mpr (by omega)) unitPositive.le
  · have tooLong := laterChosen.finest unit chosen.known coarser
    have bound := Int.mul_le_mul_of_nonneg_right
      ((roundedUp_le_iff positive unitPositive _).mpr chosen.fits) unitPositive.le
    omega

/-- What is written for a time that has run out. -/
def expiredTimeout : GrpcTimeout where
  digits := Bytes.ofString "1"
  unit := ('n', 1)
  known := by decide
  numeric := by decide
  nonempty := by decide
  short := by decide

theorem nanos_of_expired {ns : Int} {timeout : GrpcTimeout} (nonpos : ns ≤ 0)
    (encoded : encodeGrpcTimeout ns = timeout.text) : timeout.nanos = 1 := by
  have same : timeout.text = expiredTimeout.text :=
    encoded.symm.trans (encodeGrpcTimeout_of_nonpos nonpos)
  rw [GrpcTimeout.nanos_eq_of_text_eq same]
  decide

theorem encodeGrpcTimeout_monotone {ns later : Int} {timeout laterTimeout : GrpcTimeout}
    (ordered : ns ≤ later) (bounded : later < 2 ^ 63)
    (encoded : encodeGrpcTimeout ns = timeout.text)
    (laterEncoded : encodeGrpcTimeout later = laterTimeout.text) :
    timeout.nanos ≤ laterTimeout.nanos := by
  by_cases laterPositive : 0 < later
  · obtain ⟨written, writtenEq, laterChosen, laterNanos⟩ :=
      exists_grpcTimeout laterPositive bounded
    rw [GrpcTimeout.nanos_eq_of_text_eq (laterEncoded.symm.trans writtenEq), laterNanos]
    by_cases positive : 0 < ns
    · obtain ⟨earlier, earlierEq, chosen, nanosEq⟩ :=
        exists_grpcTimeout positive (by omega)
      rw [GrpcTimeout.nanos_eq_of_text_eq (encoded.symm.trans earlierEq), nanosEq]
      exact chosen.roundedUp_le laterChosen positive ordered
    · rw [nanos_of_expired (not_lt.mp positive) encoded]
      have covered := le_roundedUp_mul laterPositive (kUnits_positive _ laterChosen.known)
      omega
  · rw [nanos_of_expired (by omega) encoded,
      nanos_of_expired (not_lt.mp laterPositive) laterEncoded]

theorem inInt64_roundedUp {ns : Int} {unit : Char × Int} (positive : 0 < ns)
    (bounded : ns < 2 ^ 63) (known : unit ∈ kUnits) :
    InInt64 (ns.tdiv unit.2) ∧ InInt64 (ns.tmod unit.2) ∧ InInt64 (roundedUp ns unit.2) := by
  have unitPositive := kUnits_positive unit known
  have countPositive := roundedUp_pos positive unitPositive
  have countLe : roundedUp ns unit.2 ≤ ns := by
    rw [roundedUp_le_iff positive unitPositive]
    have scaled := Int.mul_le_mul_of_nonneg_left (Int.add_one_le_iff.mpr unitPositive)
      positive.le
    omega
  have quotientNonneg := Int.tdiv_nonneg positive.le unitPositive.le
  have quotientLe := Int.tdiv_le_self unit.2 positive.le
  have remainderNonneg := Int.tmod_nonneg unit.2 positive.le
  have division := Int.mul_tdiv_add_tmod ns unit.2
  have productNonneg := Int.mul_nonneg unitPositive.le quotientNonneg
  simp only [InInt64]
  omega

/-- `EncodeGrpcTimeout` is safe, tight and monotone on every 64-bit count of
nanoseconds. -/
theorem encodeGrpcTimeout_safe_tight_monotone :
    (∀ ns : Int64, ∃ timeout : GrpcTimeout, encodeGrpcTimeout ns.toInt = timeout.text ∧
      (ns.toInt ≤ 0 → encodeGrpcTimeout ns.toInt = Bytes.ofString "1n") ∧
      (0 < ns.toInt → ns.toInt ≤ timeout.nanos ∧
        timeout.nanos < ns.toInt + timeout.unit.2 ∧
        ∀ finer ∈ timeoutUnits, finer.2 < timeout.unit.2 →
          ∀ count, ns.toInt ≤ count * finer.2 → 99999999 < count)) ∧
    (∀ ns : Int64, 0 < ns.toInt → (kUnits.find? fun unit =>
      decide (roundedUp ns.toInt unit.2 ≤ kMaxTimeoutDigitsValue)).isSome) ∧
    (∀ (ns later : Int64) (timeout laterTimeout : GrpcTimeout), ns.toInt ≤ later.toInt →
      encodeGrpcTimeout ns.toInt = timeout.text →
      encodeGrpcTimeout later.toInt = laterTimeout.text →
      timeout.nanos ≤ laterTimeout.nanos) ∧
    (∀ ns : Int64, 0 < ns.toInt → ∀ unit ∈ kUnits, InInt64 (ns.toInt.tdiv unit.2) ∧
      InInt64 (ns.toInt.tmod unit.2) ∧ InInt64 (roundedUp ns.toInt unit.2)) := by
  refine ⟨?_, ?_, ?_, ?_⟩
  · intro ns
    by_cases positive : 0 < ns.toInt
    · obtain ⟨timeout, encoded, chosen, nanosEq⟩ := exists_grpcTimeout positive ns.toInt_lt
      have unitPositive := kUnits_positive _ chosen.known
      refine ⟨timeout, encoded, fun nonpos => absurd positive (not_lt.mpr nonpos), ?_⟩
      rintro -
      rw [nanosEq]
      refine ⟨le_roundedUp_mul positive unitPositive,
        roundedUp_mul_lt positive unitPositive, ?_⟩
      intro finer known finerLt count covers
      rw [← kUnits_eq_timeoutUnits] at known
      by_contra short
      have tooLong := chosen.finest finer known finerLt
      have bound := Int.mul_le_mul_of_nonneg_right (not_lt.mp short)
        (kUnits_positive finer known).le
      rw [kMaxTimeoutDigitsValue] at tooLong
      omega
    · have encoded := encodeGrpcTimeout_of_nonpos (not_lt.mp positive)
      exact ⟨expiredTimeout, encoded, fun _ => encoded, fun isPositive =>
        absurd isPositive positive⟩
  · intro ns positive
    exact find_isSome positive ns.toInt_lt
  · intro ns later timeout laterTimeout ordered encoded laterEncoded
    exact encodeGrpcTimeout_monotone ordered later.toInt_lt encoded laterEncoded
  · intro ns positive unit known
    exact inInt64_roundedUp positive ns.toInt_lt known

/-- The switch from nanoseconds to microseconds. -/
example : encodeGrpcTimeout 99999999 = Bytes.ofString "99999999n" ∧
    encodeGrpcTimeout 100000000 = Bytes.ofString "100000u" ∧
    encodeGrpcTimeout 100000001 = Bytes.ofString "100001u" := by
  decide +kernel

end Egrpc
