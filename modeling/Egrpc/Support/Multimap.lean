import Mathlib.Data.Fintype.EquivFin
import Mathlib.Data.List.Sort

/-!
# Ordered multimaps

`std::multimap` is a list of entries in the order of their keys, and among equal
keys in the order of insertion.  A comparator that agrees with the order of the
keys gives the same map, whatever it computes.
-/

namespace Multimap

variable {Key Value : Type*}

/-- `emplace`: the entry goes before the first one with a greater key. -/
def emplace (less : Key → Key → Prop) [DecidableRel less] (entry : Key × Value)
    (entries : List (Key × Value)) : List (Key × Value) :=
  entries.orderedInsert (fun first second => less first.1 second.1) entry

theorem emplace_congr {less other : Key → Key → Prop} [DecidableRel less]
    [DecidableRel other] (agree : ∀ first second, less first second ↔ other first second)
    (entry : Key × Value) (entries : List (Key × Value)) :
    emplace less entry entries = emplace other entry entries := by
  induction entries with
  | nil => rfl
  | cons head entries ih =>
      simp only [emplace, List.orderedInsert_cons, agree] at ih ⊢

theorem emplace_perm (less : Key → Key → Prop) [DecidableRel less]
    (entry : Key × Value) (entries : List (Key × Value)) :
    (emplace less entry entries).Perm (entry :: entries) :=
  List.perm_orderedInsert _ entry entries

section Order

variable [LE Key] [DecidableEq Key]

/-- The entries are in the order of their keys. -/
def Ordered (entries : List (Key × Value)) : Prop :=
  entries.Pairwise fun first second => first.1 ≤ second.1

/-- A map enumerates the entries that were inserted, in the order of their keys and
for each key in the order of insertion. -/
structure Enumerates (inserted entries : List (Key × Value)) : Prop where
  ordered : Ordered entries
  perm : entries.Perm inserted
  perKey : ∀ key, entries.filter (·.1 = key) = inserted.filter (·.1 = key)

theorem Enumerates.nil : Enumerates ([] : List (Key × Value)) [] where
  ordered := List.Pairwise.nil
  perm := List.Perm.nil
  perKey := fun _ => rfl

theorem Enumerates.filter {inserted entries : List (Key × Value)}
    (enumerates : Enumerates inserted entries) (keep : Key × Value → Bool) :
    Enumerates (inserted.filter keep) (entries.filter keep) where
  ordered := enumerates.ordered.filter keep
  perm := enumerates.perm.filter keep
  perKey := by
    intro key
    rw [List.filter_comm, enumerates.perKey key, List.filter_comm]

end Order

section LinearOrder

variable [LT Key] [LE Key] [Std.IsLinearOrder Key] [Std.LawfulOrderLT Key]
  [DecidableLT Key]

theorem Ordered.emplace {entries : List (Key × Value)} (ordered : Ordered entries)
    (entry : Key × Value) : Ordered (emplace (· < ·) entry entries) := by
  induction entries with
  | nil => exact List.pairwise_singleton _ entry
  | cons head entries ih =>
      obtain ⟨headFirst, ordered⟩ := List.pairwise_cons.mp ordered
      simp only [Multimap.emplace, List.orderedInsert_cons]
      split_ifs with before
      · refine List.pairwise_cons.mpr ⟨?_, List.pairwise_cons.mpr ⟨headFirst, ordered⟩⟩
        intro other member
        rcases List.mem_cons.mp member with rfl | member
        · exact Std.le_of_lt before
        · exact Std.le_trans (Std.le_of_lt before) (headFirst other member)
      · refine List.pairwise_cons.mpr ⟨?_, ih ordered⟩
        intro other member
        rcases List.mem_orderedInsert _ |>.mp member with rfl | member
        · exact Std.not_lt.mp before
        · exact headFirst other member

/-- A new entry comes after the entries that have its key already, and does not
disturb the order of any others. -/
theorem Ordered.filter_emplace [DecidableEq Key] {entries : List (Key × Value)}
    (ordered : Ordered entries) (entry : Key × Value) (key : Key) :
    (Multimap.emplace (· < ·) entry entries).filter (·.1 = key) =
      entries.filter (·.1 = key) ++ [entry].filter (·.1 = key) := by
  induction entries with
  | nil => rfl
  | cons head entries ih =>
      obtain ⟨headFirst, ordered⟩ := List.pairwise_cons.mp ordered
      simp only [Multimap.emplace, List.orderedInsert_cons]
      split_ifs with before
      · by_cases named : entry.1 = key
        · -- Every key from here on is greater than the new one.
          have greater : ∀ other ∈ head :: entries, ¬ other.1 = key := by
            intro other member same
            have above : entry.1 < other.1 := by
              rcases List.mem_cons.mp member with rfl | member
              · exact before
              · exact Std.lt_of_lt_of_le before (headFirst other member)
            rw [named, same] at above
            exact Std.lt_irrefl above
          have none : (head :: entries).filter (·.1 = key) = [] :=
            List.filter_eq_nil_iff.mpr fun other member => by simpa using greater other member
          rw [List.filter_cons, none]
          simp [named]
        · simp [List.filter_cons, named]
      · rw [List.filter_cons, List.filter_cons]
        have rest := ih ordered
        rw [Multimap.emplace] at rest
        split_ifs
        · rw [rest, List.cons_append]
        · exact rest

theorem Enumerates.emplace [DecidableEq Key] {inserted entries : List (Key × Value)}
    (enumerates : Enumerates inserted entries) (entry : Key × Value) :
    Enumerates (inserted ++ [entry]) (Multimap.emplace (· < ·) entry entries) where
  ordered := enumerates.ordered.emplace entry
  perm := by
    have added := emplace_perm (· < ·) entry entries
    exact added.trans ((enumerates.perm.cons entry).trans
      (List.perm_append_singleton entry inserted).symm)
  perKey := by
    intro key
    rw [enumerates.ordered.filter_emplace entry key, enumerates.perKey key,
      List.filter_append]

end LinearOrder

section Rank

variable [LT Key] [DecidableLT Key] [DecidableEq Key]

/-- The place of an inserted entry in the map: after the entries with smaller keys
and the earlier ones with its own. -/
def rank (inserted : List (Key × Value)) (index : Fin inserted.length) : Nat :=
  inserted.countP (fun entry => entry.1 < (inserted.get index).1) +
    (inserted.take index).countP (fun entry => entry.1 = (inserted.get index).1)

/-- A kept element comes after the kept ones before it. -/
theorem getElem?_filter_countP {Element : Type*} (keep : Element → Bool)
    (elements : List Element) (index : Fin elements.length)
    (kept : keep (elements.get index) = true) :
    (elements.filter keep)[(elements.take index).countP keep]? = some (elements.get index) := by
  have split : elements =
      elements.take index ++ elements.get index :: elements.drop (index + 1) := by
    simp
  have filtered : elements.filter keep = (elements.take index).filter keep ++
      elements.get index :: (elements.drop (index + 1)).filter keep := by
    conv_lhs => rw [split]
    rw [List.filter_append, List.filter_cons_of_pos kept]
  rw [filtered, List.countP_eq_length_filter, List.getElem?_append_right le_rfl, Nat.sub_self]
  rfl

/-- Of two insertions under one key the later one has the higher rank. -/
theorem rank_lt_rank {inserted : List (Key × Value)} {earlier later : Fin inserted.length}
    (before : earlier < later) (sameKey : (inserted.get earlier).1 = (inserted.get later).1) :
    rank inserted earlier < rank inserted later := by
  have counted : (inserted.take earlier).countP
      (fun entry => entry.1 = (inserted.get later).1) + 1 ≤
        (inserted.take later).countP (fun entry => entry.1 = (inserted.get later).1) := by
    have upTo : (inserted.take (earlier + 1)).countP
        (fun entry => entry.1 = (inserted.get later).1) =
          (inserted.take earlier).countP
            (fun entry => entry.1 = (inserted.get later).1) + 1 := by
      rw [List.take_add_one, List.countP_append]
      simpa using sameKey
    rw [← upTo]
    exact (List.take_sublist_take_left before).countP_le
  rw [rank, rank, sameKey]
  omega

section LinearOrder

variable [LE Key] [Std.IsLinearOrder Key] [Std.LawfulOrderLT Key]

/-- The entries with a key stand together, right after those with smaller keys. -/
theorem Ordered.exists_split {entries : List (Key × Value)} (ordered : Ordered entries)
    (key : Key) : ∃ greater, entries =
      entries.filter (·.1 < key) ++ (entries.filter (·.1 = key) ++ greater) := by
  induction entries with
  | nil => exact ⟨[], rfl⟩
  | cons head entries ih =>
      obtain ⟨headFirst, ordered⟩ := List.pairwise_cons.mp ordered
      obtain ⟨greater, rest⟩ := ih ordered
      by_cases below : head.1 < key
      · have differ : ¬ head.1 = key := fun same => Std.lt_irrefl (same ▸ below)
        refine ⟨greater, ?_⟩
        rw [List.filter_cons_of_pos (by simpa using below),
          List.filter_cons_of_neg (by simpa using differ), List.cons_append, ← rest]
      · -- nothing that follows is below the key either
        have noneBelow : entries.filter (·.1 < key) = [] := by
          rw [List.filter_eq_nil_iff]
          intro other member
          have above := Std.le_trans (Std.not_lt.mp below) (headFirst other member)
          simpa using Std.not_lt.mpr above
        rw [List.filter_cons_of_neg (by simpa using below), noneBelow]
        rw [noneBelow, List.nil_append] at rest
        by_cases same : head.1 = key
        · refine ⟨greater, ?_⟩
          rw [List.filter_cons_of_pos (by simpa using same), List.nil_append,
            List.cons_append, ← rest]
        · have noneEqual : entries.filter (·.1 = key) = [] := by
            rw [List.filter_eq_nil_iff]
            intro other member equal
            have otherEq : other.1 = key := by simpa using equal
            have le := headFirst other member
            rw [otherEq] at le
            exact same (Std.le_antisymm le (Std.not_lt.mp below))
          refine ⟨head :: entries, ?_⟩
          rw [List.filter_cons_of_neg (by simpa using same), noneEqual]
          rfl

/-- A map holds each inserted entry at its rank. -/
theorem Enumerates.getElem?_rank {inserted entries : List (Key × Value)}
    (enumerates : Enumerates inserted entries) (index : Fin inserted.length) :
    entries[rank inserted index]? = some (inserted.get index) := by
  obtain ⟨greater, split⟩ := enumerates.ordered.exists_split (inserted.get index).1
  have smaller : inserted.countP (fun entry => entry.1 < (inserted.get index).1) =
      (entries.filter (·.1 < (inserted.get index).1)).length := by
    rw [← List.countP_eq_length_filter]
    exact (enumerates.perm.countP_eq _).symm
  have found := getElem?_filter_countP (fun entry => entry.1 = (inserted.get index).1)
    inserted index (by simp)
  obtain ⟨inside, -⟩ := List.getElem?_eq_some_iff.mp found
  rw [split, rank, smaller, List.getElem?_append_right (Nat.le_add_right _ _),
    Nat.add_sub_cancel_left, enumerates.perKey, List.getElem?_append_left inside]
  exact found

theorem Enumerates.rank_lt {inserted entries : List (Key × Value)}
    (enumerates : Enumerates inserted entries) (index : Fin inserted.length) :
    rank inserted index < inserted.length := by
  obtain ⟨inside, -⟩ := List.getElem?_eq_some_iff.mp (enumerates.getElem?_rank index)
  rwa [enumerates.perm.length_eq] at inside

theorem Enumerates.rank_injective {inserted entries : List (Key × Value)}
    (enumerates : Enumerates inserted entries) {first second : Fin inserted.length}
    (sameRank : rank inserted first = rank inserted second) : first = second := by
  have sameEntry : inserted.get first = inserted.get second := by
    have found := enumerates.getElem?_rank first
    rw [sameRank, enumerates.getElem?_rank second] at found
    exact (Option.some.inj found).symm
  rcases lt_trichotomy first second with less | same | greater
  · have increased := rank_lt_rank less (congrArg Prod.fst sameEntry)
    omega
  · exact same
  · have increased := rank_lt_rank greater (congrArg Prod.fst sameEntry).symm
    omega

/-- The map has the values in the order of insertion exactly if each inserted value
is the one at its rank. -/
theorem Enumerates.values_eq_iff {inserted entries : List (Key × Value)}
    (enumerates : Enumerates inserted entries) :
    entries.map Prod.snd = inserted.map Prod.snd ↔
      ∀ index : Fin inserted.length,
        (inserted.map Prod.snd)[rank inserted index]? = some (inserted.get index).2 := by
  have valueAt : ∀ index : Fin inserted.length,
      (entries.map Prod.snd)[rank inserted index]? = some (inserted.get index).2 := by
    intro index
    rw [List.getElem?_map, enumerates.getElem?_rank index, Option.map_some]
  constructor
  · intro same index
    rw [← same]
    exact valueAt index
  · intro atRank
    refine List.ext_getElem? fun position => ?_
    by_cases inside : position < inserted.length
    · -- every position is the rank of some insertion
      have onto : Function.Surjective fun index : Fin inserted.length =>
          (⟨rank inserted index, enumerates.rank_lt index⟩ : Fin inserted.length) :=
        Finite.injective_iff_surjective.mp fun first second same =>
          enumerates.rank_injective (Fin.mk.inj same)
      obtain ⟨index, indexEq⟩ := onto ⟨position, inside⟩
      have positionEq : rank inserted index = position := congrArg Fin.val indexEq
      rw [← positionEq, valueAt index, atRank index]
    · have outside : (entries.map Prod.snd).length ≤ position := by
        rw [List.length_map, enumerates.perm.length_eq]
        omega
      rw [List.getElem?_eq_none outside, List.getElem?_eq_none (by simpa using inside)]

end LinearOrder

end Rank

end Multimap
