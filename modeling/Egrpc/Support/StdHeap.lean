import Mathlib.Data.List.Sort

/-!
# Standard-library heaps

`std::push_heap` and `std::pop_heap` keep a sequence in heap order.  The
standard fixes neither the layout of the sequence nor which of several
arrangements is produced: only that the front is never later than another
entry, and that entries are neither lost nor invented.  A `StdHeap` is any pair
of functions with these properties.
-/

/-- The heap algorithms for a comparison `later`, and what is documented of
them.  `push` is `push_back` followed by `push_heap`; `pop` is `pop_heap`
followed by `pop_back`. -/
structure StdHeap (Entry : Type*) (later : Entry → Entry → Bool) where
  IsHeap : List Entry → Prop
  isHeap_nil : IsHeap []
  front_not_later : ∀ {top entries}, IsHeap (top :: entries) →
    ∀ entry ∈ entries, later top entry = false
  push : List Entry → Entry → List Entry
  push_perm : ∀ entries entry, (push entries entry).Perm (entry :: entries)
  push_isHeap : ∀ {entries} entry, IsHeap entries → IsHeap (push entries entry)
  pop : List Entry → List Entry
  pop_perm : ∀ top entries, (pop (top :: entries)).Perm entries
  pop_isHeap : ∀ {top entries}, IsHeap (top :: entries) →
    IsHeap (pop (top :: entries))

namespace StdHeap

variable {Entry : Type*}

/-- Keeping the sequence sorted is one way to keep it in heap order. -/
def sorted (later : Entry → Entry → Bool)
    (total : ∀ first second, later first second = false ∨
      later second first = false)
    (transitive : ∀ first second third, later first second = false →
      later second third = false → later first third = false) :
    StdHeap Entry later where
  IsHeap entries := entries.Pairwise fun first second => later first second = false
  isHeap_nil := List.Pairwise.nil
  front_not_later heap := (List.pairwise_cons.mp heap).1
  push entries entry :=
    entries.orderedInsert (fun first second => later first second = false) entry
  push_perm entries entry := List.perm_orderedInsert _ entry entries
  push_isHeap {entries} entry heap := by
    have totalOrder : Std.Total
        fun first second : Entry => later first second = false := ⟨total⟩
    have transOrder : IsTrans Entry
        fun first second => later first second = false := ⟨transitive⟩
    exact List.Pairwise.orderedInsert entry entries heap
  pop entries := entries.tail
  pop_perm _ entries := List.Perm.refl entries
  pop_isHeap heap := (List.pairwise_cons.mp heap).2

end StdHeap
