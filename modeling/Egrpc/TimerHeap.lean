import Egrpc.Support.StdHeap
import Mathlib.Data.List.AList

/-!
# The timer heap

Timers are kept twice: the heap orders deadlines, and the callback table says
which timers are still pending.  Cancelling only drops the callback; the heap
entry is discarded when it surfaces.  Callbacks are closures in the source and
an arbitrary type of labels here.
-/

namespace Egrpc

/-- A heap entry.  Deadlines are points of the monotonic clock in nanoseconds;
timer ids count up from one, and zero names no timer. -/
structure TimerHeap.Entry where
  deadline : Int
  id : Nat
  deriving DecidableEq

/-- `EntryLater`: later deadline first, later id among equal deadlines. -/
def TimerHeap.entryLater (first second : TimerHeap.Entry) : Bool :=
  if first.deadline ≠ second.deadline then
    decide (second.deadline < first.deadline)
  else decide (second.id < first.id)

/-- The heap algorithms the timer heap is built on. -/
abbrev TimerHeap.Algorithms :=
  StdHeap TimerHeap.Entry TimerHeap.entryLater

/-- The sorted arrangement is one of them. -/
def TimerHeap.sortedAlgorithms : TimerHeap.Algorithms :=
  StdHeap.sorted TimerHeap.entryLater
    (by
      intro first second
      unfold TimerHeap.entryLater
      split_ifs <;> simp only [decide_eq_false_iff_not] <;> omega)
    (by
      intro first second third
      unfold TimerHeap.entryLater
      split_ifs <;> simp only [decide_eq_false_iff_not] <;> omega)

/-- The timers of one event thread.  Every pending timer has a heap entry, no
id occurs twice in the heap, and no id has been handed out twice. -/
structure TimerHeap (Callback : Type) where
  heap : List TimerHeap.Entry := []
  callbacks : AList (fun _ : Nat => Callback) := ∅
  nextId : Nat := 1
  nextId_pos : 0 < nextId := by decide
  callback_entry : ∀ id ∈ callbacks, ∃ entry ∈ heap, entry.id = id := by
    exact fun id member => absurd member (AList.notMem_empty id)
  entry_lt : ∀ entry ∈ heap, entry.id < nextId := by
    exact List.forall_mem_nil _
  ids_nodup : (heap.map TimerHeap.Entry.id).Nodup := by exact List.nodup_nil

namespace TimerHeap

variable {Callback : Type}

/-- The timer was added and has neither fired nor been cancelled. -/
def Pending (timers : TimerHeap Callback) (id : Nat) : Prop :=
  id ∈ timers.callbacks

instance (timers : TimerHeap Callback) (id : Nat) :
    Decidable (timers.Pending id) :=
  inferInstanceAs (Decidable (id ∈ timers.callbacks))

def size (timers : TimerHeap Callback) : Nat :=
  timers.callbacks.keys.length

def add (algorithms : Algorithms) (timers : TimerHeap Callback)
    (deadline : Int) (callback : Callback) :
    Nat × TimerHeap Callback :=
  let id := timers.nextId
  (id,
    { heap := algorithms.push timers.heap ⟨deadline, id⟩
      callbacks := timers.callbacks.insert id callback
      nextId := id + 1
      nextId_pos := Nat.succ_pos id
      callback_entry := by
        intro other member
        have entries := algorithms.push_perm timers.heap ⟨deadline, id⟩
        rcases (AList.mem_insert _).mp member with isNew | old
        · exact ⟨⟨deadline, id⟩, entries.mem_iff.mpr (by simp), isNew.symm⟩
        · obtain ⟨entry, inHeap, idEq⟩ := timers.callback_entry other old
          exact ⟨entry, entries.mem_iff.mpr (by simp [inHeap]), idEq⟩
      entry_lt := by
        intro entry member
        rw [(algorithms.push_perm timers.heap _).mem_iff, List.mem_cons] at member
        rcases member with rfl | old
        · exact Nat.lt_succ_self id
        · exact Nat.lt_succ_of_lt (timers.entry_lt entry old)
      ids_nodup := by
        have entries := (algorithms.push_perm timers.heap ⟨deadline, id⟩).map
          TimerHeap.Entry.id
        rw [entries.nodup_iff, List.map_cons, List.nodup_cons]
        refine ⟨?_, timers.ids_nodup⟩
        intro member
        obtain ⟨entry, inHeap, idEq⟩ := List.mem_map.mp member
        have := timers.entry_lt entry inHeap
        simp only at idEq
        omega })

/-- Drop a timer's callback; its heap entry stays.  True if the timer was
pending. -/
def cancel (timers : TimerHeap Callback) (id : Nat) :
    Bool × TimerHeap Callback :=
  (decide (timers.Pending id),
    { timers with
      callbacks := timers.callbacks.erase id
      callback_entry := by
        intro other member
        exact timers.callback_entry other (AList.mem_erase.mp member).2 })

/-- Cancel the timer that a field names; zero names none. -/
def cancelNamed (timers : TimerHeap Callback) (id : Nat) : TimerHeap Callback :=
  if id ≠ 0 then (timers.cancel id).2 else timers

/-- Remove the front entry, keeping only callbacks of other timers. -/
def popTop (algorithms : Algorithms) (timers : TimerHeap Callback)
    {top : Entry} {rest : List Entry} (heapEq : timers.heap = top :: rest)
    (callbacks : AList (fun _ : Nat => Callback))
    (others : ∀ id ∈ callbacks, id ∈ timers.callbacks ∧ id ≠ top.id) :
    TimerHeap Callback :=
  { timers with
    heap := algorithms.pop timers.heap
    callbacks := callbacks
    callback_entry := by
      intro id member
      obtain ⟨pending, other⟩ := others id member
      obtain ⟨entry, inHeap, idEq⟩ := timers.callback_entry id pending
      rw [heapEq, List.mem_cons] at inHeap
      rw [heapEq]
      refine ⟨entry, (algorithms.pop_perm top rest).mem_iff.mpr ?_, idEq⟩
      rcases inHeap with rfl | inRest
      · exact (other idEq.symm).elim
      · exact inRest
    entry_lt := by
      intro entry member
      rw [heapEq] at member
      apply timers.entry_lt
      rw [heapEq]
      exact List.mem_cons_of_mem _ ((algorithms.pop_perm top rest).mem_iff.mp member)
    ids_nodup := by
      have nodup := timers.ids_nodup
      rw [heapEq, List.map_cons, List.nodup_cons] at nodup
      rw [heapEq, ((algorithms.pop_perm top rest).map Entry.id).nodup_iff]
      exact nodup.2 }

/-- The loop of `PruneCancelledTop`, bounded by the number of entries. -/
def pruneUpTo (algorithms : Algorithms) :
    Nat → TimerHeap Callback → TimerHeap Callback
  | 0, timers => timers
  | fuel + 1, timers =>
      match heapEq : timers.heap with
      | [] => timers
      | top :: _ =>
          if live : top.id ∈ timers.callbacks then timers
          else
            pruneUpTo algorithms fuel
              (timers.popTop algorithms heapEq timers.callbacks (by
                intro id member
                exact ⟨member, fun same => live (same ▸ member)⟩))

/-- Discard cancelled entries until the front is live. -/
def pruneCancelledTop (algorithms : Algorithms) (timers : TimerHeap Callback) :
    TimerHeap Callback :=
  timers.pruneUpTo algorithms timers.heap.length

/-- One round of `RunDue`: the timer to fire, if the earliest is due.  Its
entry and its callback are gone before the callback runs. -/
def takeDue (algorithms : Algorithms) (timers : TimerHeap Callback)
    (now : Int) : Option (Nat × Callback) × TimerHeap Callback :=
  let timers := timers.pruneCancelledTop algorithms
  match heapEq : timers.heap with
  | [] => (none, timers)
  | top :: _ =>
      if now < top.deadline then (none, timers)
      else
        match timers.callbacks.lookup top.id with
        | none => (none, timers)
        | some callback =>
            (some (top.id, callback),
              timers.popTop algorithms heapEq (timers.callbacks.erase top.id) (by
                intro id member
                exact ⟨(AList.mem_erase.mp member).2,
                  (AList.mem_erase.mp member).1⟩))

/-- The earliest deadline, if a timer is pending. -/
def nextDeadline (algorithms : Algorithms) (timers : TimerHeap Callback) :
    Option Int × TimerHeap Callback :=
  let timers := timers.pruneCancelledTop algorithms
  (timers.heap.head?.map Entry.deadline, timers)

/-- The longest timeout `poll` can be given. -/
def INT_MAX : Int := 2147483647

/-- How long `poll` may sleep, in milliseconds: forever, not at all, or past the
earliest deadline. -/
def pollTimeoutMs (algorithms : Algorithms) (timers : TimerHeap Callback)
    (now : Int) : Int × TimerHeap Callback :=
  let next := timers.nextDeadline algorithms
  match next.1 with
  | none => (-1, next.2)
  | some deadline =>
      if deadline ≤ now then (0, next.2)
      else (min ((deadline - now) / 1000000 + 1) INT_MAX, next.2)

/-! ## What the operations do to the pending timers -/

theorem add_id_ne_zero (algorithms : Algorithms)
    (timers : TimerHeap Callback) (deadline : Int) (callback : Callback) :
    (timers.add algorithms deadline callback).1 ≠ 0 :=
  Nat.pos_iff_ne_zero.mp timers.nextId_pos

theorem add_callbacks (algorithms : Algorithms)
    (timers : TimerHeap Callback) (deadline : Int) (callback : Callback) :
    (timers.add algorithms deadline callback).2.callbacks =
      timers.callbacks.insert (timers.add algorithms deadline callback).1
        callback :=
  rfl

@[simp]
theorem cancel_callbacks (timers : TimerHeap Callback) (id : Nat) :
    (timers.cancel id).2.callbacks = timers.callbacks.erase id :=
  rfl

theorem mem_cancelNamed {timers : TimerHeap Callback} {id other : Nat}
    (member : other ∈ (timers.cancelNamed id).callbacks) :
    other ∈ timers.callbacks ∧ (other ≠ 0 → other ≠ id) := by
  unfold cancelNamed at member
  split_ifs at member with set
  · have kept := AList.mem_erase.mp member
    exact ⟨kept.2, fun _ => kept.1⟩
  · exact ⟨member, fun nonzero => not_not.mp set ▸ nonzero⟩

theorem pruneUpTo_callbacks (algorithms : Algorithms) (fuel : Nat)
    (timers : TimerHeap Callback) :
    (timers.pruneUpTo algorithms fuel).callbacks = timers.callbacks := by
  induction fuel generalizing timers with
  | zero => rfl
  | succ fuel ih =>
      unfold pruneUpTo
      split
      · rfl
      · split_ifs
        · rfl
        · rw [ih]
          rfl

/-- Pruning touches no pending timer. -/
@[simp]
theorem pruneCancelledTop_callbacks (algorithms : Algorithms)
    (timers : TimerHeap Callback) :
    (timers.pruneCancelledTop algorithms).callbacks = timers.callbacks :=
  pruneUpTo_callbacks algorithms _ timers

theorem pollTimeoutMs_callbacks (algorithms : Algorithms)
    (timers : TimerHeap Callback) (now : Int) :
    (timers.pollTimeoutMs algorithms now).2.callbacks = timers.callbacks := by
  have pruned := pruneCancelledTop_callbacks algorithms timers
  unfold pollTimeoutMs nextDeadline
  simp only
  split
  · exact pruned
  · split_ifs
    · exact pruned
    · exact pruned

/-- A round of `RunDue` either fires nothing and changes no pending timer, or
fires a pending timer, which is pending no more. -/
theorem takeDue_cases (algorithms : Algorithms) (timers : TimerHeap Callback)
    (now : Int) :
    ((timers.takeDue algorithms now).1 = none ∧
      (timers.takeDue algorithms now).2.callbacks = timers.callbacks) ∨
    ∃ id callback, (timers.takeDue algorithms now).1 = some (id, callback) ∧
      timers.callbacks.lookup id = some callback ∧
      (timers.takeDue algorithms now).2.callbacks =
        timers.callbacks.erase id := by
  unfold takeDue
  simp only
  split
  · left
    exact ⟨rfl, timers.pruneCancelledTop_callbacks algorithms⟩
  · rename_i top rest heapEq
    split_ifs
    · left
      exact ⟨rfl, timers.pruneCancelledTop_callbacks algorithms⟩
    · split
      · left
        exact ⟨rfl, timers.pruneCancelledTop_callbacks algorithms⟩
      · rename_i callback found
        right
        rw [pruneCancelledTop_callbacks] at found
        refine ⟨top.id, callback, rfl, found, ?_⟩
        simp only [popTop, pruneCancelledTop_callbacks]

/-! ## At most one timer -/

/-- No timer but the named one is pending, and that one has the given
callback; zero names none. -/
def Only (timers : TimerHeap Callback) (id : Nat) (callback : Callback) : Prop :=
  ∀ other, timers.callbacks.lookup other =
    if other = id ∧ id ≠ 0 then some callback else none

theorem Only.mem_iff {timers : TimerHeap Callback} {id : Nat}
    {callback : Callback} (only : timers.Only id callback) (other : Nat) :
    other ∈ timers.callbacks ↔ other = id ∧ id ≠ 0 := by
  rw [← AList.lookup_isSome, only other]
  split_ifs with named <;> simp [named]

theorem only_zero {timers : TimerHeap Callback}
    (none : ∀ id, id ∉ timers.callbacks) (callback : Callback) :
    timers.Only 0 callback := by
  intro other
  rw [if_neg (by simp), AList.lookup_eq_none]
  exact none other

theorem only_add (algorithms : Algorithms) {timers : TimerHeap Callback}
    (none : ∀ id, id ∉ timers.callbacks) (deadline : Int) (callback : Callback) :
    (timers.add algorithms deadline callback).2.Only
      (timers.add algorithms deadline callback).1 callback := by
  intro other
  have nonzero := timers.add_id_ne_zero algorithms deadline callback
  rw [add_callbacks]
  by_cases same : other = (timers.add algorithms deadline callback).1
  · rw [if_pos ⟨same, nonzero⟩, same, AList.lookup_insert]
  · rw [if_neg (fun named => same named.1), AList.lookup_insert_ne same,
      AList.lookup_eq_none]
    exact none other

theorem Only.cancelNamed {timers : TimerHeap Callback} {id : Nat}
    {callback : Callback} (only : timers.Only id callback) (other : Nat) :
    other ∉ (timers.cancelNamed id).callbacks := by
  intro member
  obtain ⟨pending, apart⟩ := mem_cancelNamed member
  obtain ⟨same, nonzero⟩ := (only.mem_iff other).mp pending
  exact apart (same ▸ nonzero) same

theorem Only.takeDue {timers : TimerHeap Callback} {id : Nat}
    {callback : Callback} (only : timers.Only id callback)
    (algorithms : Algorithms) (now : Int) :
    ((timers.takeDue algorithms now).1 = none ∧
      (timers.takeDue algorithms now).2.Only id callback) ∨
    ((timers.takeDue algorithms now).1 = some (id, callback) ∧ id ≠ 0 ∧
      ∀ other, other ∉ (timers.takeDue algorithms now).2.callbacks) := by
  rcases takeDue_cases algorithms timers now with
    ⟨nothing, same⟩ | ⟨fired, fires, found, pending, rest⟩
  · left
    refine ⟨nothing, ?_⟩
    intro other
    rw [same]
    exact only other
  · right
    rw [only fired] at pending
    split_ifs at pending with named
    obtain ⟨rfl, nonzero⟩ := named
    cases pending
    refine ⟨found, nonzero, ?_⟩
    intro other member
    rw [rest] at member
    obtain ⟨apart, kept⟩ := AList.mem_erase.mp member
    exact apart ((only.mem_iff other).mp kept).1

/-! ## When timers are due -/

/-- Every pending timer is due after the given time. -/
def DueAfter (timers : TimerHeap Callback) (now : Int) : Prop :=
  ∀ entry ∈ timers.heap, timers.Pending entry.id → now < entry.deadline

theorem dueAfter_of_none {timers : TimerHeap Callback}
    (none : ∀ id, id ∉ timers.callbacks) (now : Int) : timers.DueAfter now :=
  fun entry _ pending => absurd pending (none entry.id)

theorem dueAfter_add (algorithms : Algorithms) {timers : TimerHeap Callback}
    (none : ∀ id, id ∉ timers.callbacks) {now deadline : Int} (later : now < deadline)
    (callback : Callback) :
    (timers.add algorithms deadline callback).2.DueAfter now := by
  intro entry member pending
  have inHeap := (algorithms.push_perm timers.heap ⟨deadline, timers.nextId⟩).mem_iff.mp
    member
  rcases List.mem_cons.mp inHeap with rfl | old
  · exact later
  · -- The older entries belong to cancelled timers.
    have earlier := timers.entry_lt entry old
    rcases (AList.mem_insert _).mp pending with same | held
    · omega
    · exact absurd held (none entry.id)

theorem mem_of_mem_pruneUpTo (algorithms : Algorithms) {fuel : Nat}
    {timers : TimerHeap Callback} {entry : Entry}
    (member : entry ∈ (timers.pruneUpTo algorithms fuel).heap) : entry ∈ timers.heap := by
  induction fuel generalizing timers with
  | zero => exact member
  | succ fuel ih =>
      unfold pruneUpTo at member
      split at member
      · exact member
      · rename_i top rest heapEq
        split_ifs at member
        · exact member
        · have kept : entry ∈ algorithms.pop timers.heap := ih member
          rw [heapEq] at kept ⊢
          exact List.mem_cons_of_mem _ ((algorithms.pop_perm top rest).mem_iff.mp kept)

theorem DueAfter.takeDue {timers : TimerHeap Callback} {now : Int}
    (later : timers.DueAfter now) (algorithms : Algorithms) :
    (timers.takeDue algorithms now).1 = none := by
  unfold TimerHeap.takeDue
  simp only
  split
  · rfl
  · rename_i top rest heapEq
    split_ifs with undue
    · rfl
    · split
      · rfl
      · rename_i callback found
        have member : top ∈ timers.heap := by
          apply mem_of_mem_pruneUpTo algorithms
          change top ∈ (timers.pruneCancelledTop algorithms).heap
          rw [heapEq]
          exact List.mem_cons_self
        have pending : timers.Pending top.id := by
          rw [pruneCancelledTop_callbacks] at found
          exact AList.lookup_isSome.mp (found ▸ rfl)
        exact absurd (later top member pending) undue

end TimerHeap

end Egrpc
