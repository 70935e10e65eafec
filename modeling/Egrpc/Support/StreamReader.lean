import Mathlib.Data.List.Basic

/-!
# Reading records off a growing stream

A reader takes one record off the front of a list of symbols, or reports that
the list holds no complete record yet.  When a complete record does not depend
on what follows it, cutting the stream into chunks cannot change what is read.
The file states this for the list of all complete records and the unread
remainder, which is how an incremental scanner is compared with a parse of the
whole stream.
-/

/-- A reader of single records whose answers are stable under later input. -/
structure StreamReader (Symbol Record : Type*) where
  /-- The first record and the symbols after it, once it is complete. -/
  read : List Symbol → Option (Record × List Symbol)
  shrinks : ∀ {symbols record rest},
    read symbols = some (record, rest) → rest.length < symbols.length
  stable : ∀ {symbols record rest} (later : List Symbol),
    read symbols = some (record, rest) →
      read (symbols ++ later) = some (record, rest ++ later)

namespace StreamReader

variable {Symbol Record : Type*} (reader : StreamReader Symbol Record)

/-- Read at most `fuel` records. -/
def readUpTo : Nat → List Symbol → List Record × List Symbol
  | 0, symbols => ([], symbols)
  | fuel + 1, symbols =>
      match reader.read symbols with
      | none => ([], symbols)
      | some (record, rest) =>
          let tail := readUpTo fuel rest
          (record :: tail.1, tail.2)

/-- All complete records of a stream, and the symbols left over. -/
def readAll (symbols : List Symbol) : List Record × List Symbol :=
  reader.readUpTo symbols.length symbols

def records (symbols : List Symbol) : List Record :=
  (reader.readAll symbols).1

/-- The symbols of a stream after its last complete record. -/
def unread (symbols : List Symbol) : List Symbol :=
  (reader.readAll symbols).2

theorem read_nil : reader.read [] = none := by
  cases readEq : reader.read [] with
  | none => rfl
  | some pair =>
      obtain ⟨record, rest⟩ := pair
      have shorter := reader.shrinks readEq
      simp at shorter

/-- Two amounts of fuel that both cover the stream read the same records. -/
theorem readUpTo_congr {fuel other : Nat} {symbols : List Symbol}
    (enough : symbols.length ≤ fuel) (otherEnough : symbols.length ≤ other) :
    reader.readUpTo fuel symbols = reader.readUpTo other symbols := by
  induction fuel generalizing other symbols with
  | zero =>
      obtain rfl : symbols = [] := List.eq_nil_of_length_eq_zero (by omega)
      cases other with
      | zero => rfl
      | succ other => simp [readUpTo, reader.read_nil]
  | succ fuel ih =>
      cases other with
      | zero =>
          obtain rfl : symbols = [] := List.eq_nil_of_length_eq_zero (by omega)
          simp [readUpTo, reader.read_nil]
      | succ other =>
          simp only [readUpTo]
          cases readEq : reader.read symbols with
          | none => rfl
          | some pair =>
              obtain ⟨record, rest⟩ := pair
              have shorter := reader.shrinks readEq
              have tails : reader.readUpTo fuel rest = reader.readUpTo other rest :=
                ih (by omega) (by omega)
              simp only [tails]

theorem readUpTo_eq_readAll {fuel : Nat} {symbols : List Symbol}
    (enough : symbols.length ≤ fuel) :
    reader.readUpTo fuel symbols = reader.readAll symbols :=
  reader.readUpTo_congr enough (Nat.le_refl _)

theorem readAll_of_read_eq_none {symbols : List Symbol}
    (incomplete : reader.read symbols = none) :
    reader.readAll symbols = ([], symbols) := by
  rw [← reader.readUpTo_eq_readAll (Nat.le_succ symbols.length)]
  simp [readUpTo, incomplete]

theorem readAll_of_read_eq_some {symbols rest : List Symbol} {record : Record}
    (complete : reader.read symbols = some (record, rest)) :
    reader.readAll symbols =
      (record :: (reader.readAll rest).1, (reader.readAll rest).2) := by
  have shorter := reader.shrinks complete
  rw [← reader.readUpTo_eq_readAll (Nat.le_succ symbols.length)]
  simp only [readUpTo, complete]
  rw [reader.readUpTo_eq_readAll (by omega)]

@[simp]
theorem records_of_read_eq_none {symbols : List Symbol}
    (incomplete : reader.read symbols = none) :
    reader.records symbols = [] := by
  simp [records, reader.readAll_of_read_eq_none incomplete]

@[simp]
theorem unread_of_read_eq_none {symbols : List Symbol}
    (incomplete : reader.read symbols = none) :
    reader.unread symbols = symbols := by
  simp [unread, reader.readAll_of_read_eq_none incomplete]

theorem records_of_read_eq_some {symbols rest : List Symbol} {record : Record}
    (complete : reader.read symbols = some (record, rest)) :
    reader.records symbols = record :: reader.records rest := by
  simp [records, reader.readAll_of_read_eq_some complete]

theorem unread_of_read_eq_some {symbols rest : List Symbol} {record : Record}
    (complete : reader.read symbols = some (record, rest)) :
    reader.unread symbols = reader.unread rest := by
  simp [unread, reader.readAll_of_read_eq_some complete]

/-- Induction along the records of a stream. -/
theorem induction_on {motive : List Symbol → Prop}
    (stuck : ∀ symbols, reader.read symbols = none → motive symbols)
    (more : ∀ symbols record rest,
      reader.read symbols = some (record, rest) → motive rest →
        motive symbols)
    (symbols : List Symbol) : motive symbols := by
  cases readEq : reader.read symbols with
  | none => exact stuck symbols readEq
  | some pair =>
      obtain ⟨record, rest⟩ := pair
      have shorter := reader.shrinks readEq
      exact more symbols record rest readEq (induction_on stuck more rest)
termination_by symbols.length

/-- No complete record is left unread. -/
theorem read_unread (symbols : List Symbol) :
    reader.read (reader.unread symbols) = none := by
  induction symbols using reader.induction_on with
  | stuck symbols incomplete =>
      rwa [reader.unread_of_read_eq_none incomplete]
  | more symbols record rest complete ih =>
      rwa [reader.unread_of_read_eq_some complete]

/-- Reading a stream cut in two: the first part is read alone, and what it
leaves unread is put in front of the second part. -/
theorem records_append (first second : List Symbol) :
    reader.records (first ++ second) =
      reader.records first ++
        reader.records (reader.unread first ++ second) := by
  induction first using reader.induction_on with
  | stuck symbols incomplete => simp [incomplete]
  | more symbols record rest complete ih =>
      rw [reader.records_of_read_eq_some complete,
        reader.unread_of_read_eq_some complete,
        reader.records_of_read_eq_some (reader.stable second complete), ih]
      rfl

theorem unread_append (first second : List Symbol) :
    reader.unread (first ++ second) =
      reader.unread (reader.unread first ++ second) := by
  induction first using reader.induction_on with
  | stuck symbols incomplete => simp [incomplete]
  | more symbols record rest complete ih =>
      rw [reader.unread_of_read_eq_some complete,
        reader.unread_of_read_eq_some (reader.stable second complete), ih]

end StreamReader
