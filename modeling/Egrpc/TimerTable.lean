import Egrpc.TimerHeap
import Mathlib.Data.Finmap
import Mathlib.Order.Bounds.Basic

/-!
# The lazy timer heap refines an eager timer table

What a timer heap is for is said by a table of the pending timers, from which a
timer disappears the moment it is cancelled or fires.  The table permits an
observation of the heap or it does not: an id is the next one, an answer to
`Cancel` tells whether the timer is in the table, a deadline is the least of
the table, and the timer that fires is the first of the table in the order of
deadline and id.

Cancelled entries stay in the heap, and callbacks add and cancel timers in the
middle of `RunDue`.  The heap refines the table: whatever its callers and
callbacks do, each observation is permitted by the table of the observations
before it.
-/

namespace Egrpc

/-! ## The eager table -/

/-- Something that is seen of a timer heap from outside. -/
inductive TimerEvent (Callback : Type) where
  | added (id : Nat) (deadline : Int) (callback : Callback)
  | cancelled (id : Nat) (wasPending : Bool)
  | nextDeadline (answer : Option Int)
  | fired (now : Int) (id : Nat) (callback : Callback)
  | ranDue (now : Int) (ran : Nat)

/-- The timers added and neither fired nor cancelled, and how many timers were
ever added. -/
structure TimerTable (Callback : Type) where
  pending : Finmap fun _ : Nat => Int × Callback := ∅
  added : Nat := 0

variable {Callback : Type}

namespace TimerEvent

/-- The timer that is pending no more after the event. -/
def ends : TimerEvent Callback → Option Nat
  | .cancelled id true => some id
  | .fired _ id _ => some id
  | _ => none

def isAdded : TimerEvent Callback → Bool
  | .added .. => true
  | _ => false

end TimerEvent

namespace TimerTable

def record (table : TimerTable Callback) :
    TimerEvent Callback → TimerTable Callback
  | .added id deadline callback =>
      { pending := table.pending.insert id (deadline, callback)
        added := table.added + 1 }
  | .cancelled id _ => { table with pending := table.pending.erase id }
  | .fired _ id _ => { table with pending := table.pending.erase id }
  | .nextDeadline _ => table
  | .ranDue _ _ => table

/-- The timer is in the table with this deadline. -/
def Due (table : TimerTable Callback) (id : Nat) (deadline : Int) : Prop :=
  ∃ callback, table.pending.lookup id = some (deadline, callback)

/-- The events that may follow on a table. -/
def Permits (table : TimerTable Callback) : TimerEvent Callback → Prop
  | .added id _ _ => id = table.added + 1
  | .cancelled id wasPending => wasPending = true ↔ id ∈ table.pending
  | .nextDeadline none => table.pending = ∅
  | .nextDeadline (some answer) =>
      IsLeast { deadline | ∃ id, table.Due id deadline } answer
  | .fired now id callback =>
      ∃ deadline, table.pending.lookup id = some (deadline, callback) ∧
        deadline ≤ now ∧
        -- No other timer comes first in the order of deadline and id.
        ∀ other later, table.Due other later →
          deadline < later ∨ deadline = later ∧ id ≤ other
  | .ranDue now _ => ∀ id deadline, table.Due id deadline → now < deadline

/-- Each event is permitted by the table that the earlier ones leave. -/
def Permitted (table : TimerTable Callback) : List (TimerEvent Callback) → Prop
  | [] => True
  | event :: events => table.Permits event ∧ (table.record event).Permitted events

theorem Permitted.append {table : TimerTable Callback}
    {first second : List (TimerEvent Callback)} (permitted : table.Permitted first)
    (following : (first.foldl record table).Permitted second) :
    table.Permitted (first ++ second) := by
  induction first generalizing table with
  | nil => exact following
  | cons event first ih => exact ⟨permitted.1, ih permitted.2 following⟩

/-- Ids are handed out in the order of the additions. -/
def Bounded (table : TimerTable Callback) : Prop :=
  ∀ id ∈ table.pending, id ≤ table.added

theorem Bounded.record {table : TimerTable Callback} (bounded : table.Bounded)
    {event : TimerEvent Callback} (permits : table.Permits event) :
    (table.record event).Bounded := by
  cases event with
  | added id deadline callback =>
      intro other member
      rcases Finmap.mem_insert.mp member with rfl | old
      · exact permits.le
      · exact (bounded other old).trans (Nat.le_succ _)
  | cancelled id wasPending =>
      exact fun other member => bounded other (Finmap.mem_erase.mp member).2
  | fired now id callback =>
      exact fun other member => bounded other (Finmap.mem_erase.mp member).2
  | nextDeadline answer => exact bounded
  | ranDue now ran => exact bounded

/-- A timer that ends was pending. -/
theorem Permits.ends_pending {table : TimerTable Callback}
    {event : TimerEvent Callback} (permits : table.Permits event) {id : Nat}
    (ends : event.ends = some id) :
    id ∈ table.pending ∧ (table.record event).pending = table.pending.erase id ∧
      (table.record event).added = table.added := by
  cases event with
  | cancelled other wasPending =>
      cases wasPending with
      | false => cases ends
      | true =>
          cases ends
          exact ⟨permits.mp rfl, rfl, rfl⟩
  | fired now other callback =>
      cases ends
      obtain ⟨deadline, found, _⟩ := permits
      exact ⟨Finmap.mem_of_lookup_eq_some found, rfl, rfl⟩
  | added | nextDeadline | ranDue => cases ends

/-- No event brings a timer of the past back. -/
theorem Permits.old_of_record {table : TimerTable Callback}
    {event : TimerEvent Callback} (permits : table.Permits event) {id : Nat}
    (later : id ∈ (table.record event).pending ∨
      (table.record event).added < id) :
    id ∈ table.pending ∨ table.added < id := by
  cases event with
  | added new deadline callback =>
      rcases later with member | fresh
      · rcases Finmap.mem_insert.mp member with rfl | old
        · exact .inr (permits ▸ Nat.lt_succ_self _)
        · exact .inl old
      · exact .inr (Nat.lt_of_succ_lt fresh)
  | cancelled other wasPending =>
      exact later.imp_left fun member => (Finmap.mem_erase.mp member).2
  | fired now other callback =>
      exact later.imp_left fun member => (Finmap.mem_erase.mp member).2
  | nextDeadline answer => exact later
  | ranDue now ran => exact later

/-- A timer that ends in a run was pending at its beginning or is added in
it. -/
theorem Permitted.ends_old {table : TimerTable Callback}
    {events : List (TimerEvent Callback)} (permitted : table.Permitted events) :
    ∀ id ∈ events.filterMap TimerEvent.ends,
      id ∈ table.pending ∨ table.added < id := by
  induction events generalizing table with
  | nil => exact nofun
  | cons event events ih =>
      intro id member
      rw [List.filterMap_cons] at member
      cases ends : event.ends with
      | none =>
          rw [ends] at member
          exact permitted.1.old_of_record (ih permitted.2 id member)
      | some ended =>
          rw [ends] at member
          rcases List.mem_cons.mp member with rfl | later
          · exact .inl (permitted.1.ends_pending ends).1
          · exact permitted.1.old_of_record (ih permitted.2 id later)

/-- In a permitted run a timer ends once: it fires, or it is cancelled, and
that is the last of it. -/
theorem Permitted.ends_nodup {table : TimerTable Callback}
    (bounded : table.Bounded) {events : List (TimerEvent Callback)}
    (permitted : table.Permitted events) :
    (events.filterMap TimerEvent.ends).Nodup := by
  induction events generalizing table with
  | nil => exact List.nodup_nil
  | cons event events ih =>
      have rest := ih (bounded.record permitted.1) permitted.2
      rw [List.filterMap_cons]
      cases ends : event.ends with
      | none => exact rest
      | some ended =>
          refine List.nodup_cons.mpr ⟨?_, rest⟩
          intro again
          obtain ⟨pending, erased, sameCount⟩ := permitted.1.ends_pending ends
          have old := permitted.2.ends_old ended again
          rw [erased, sameCount] at old
          rcases old with kept | fresh
          · exact (Finmap.mem_erase.mp kept).1 rfl
          · exact Nat.not_lt.mpr (bounded ended pending) fresh

/-- The ids of a run are those counted up from its beginning. -/
theorem Permitted.added_le {table : TimerTable Callback}
    {events : List (TimerEvent Callback)} (permitted : table.Permitted events)
    {id : Nat} {deadline : Int} {callback : Callback}
    (member : .added id deadline callback ∈ events) :
    id ≤ table.added + events.countP TimerEvent.isAdded := by
  induction events generalizing table with
  | nil => cases member
  | cons event events ih =>
      rw [List.countP_cons]
      rcases List.mem_cons.mp member with rfl | later
      · have : id = table.added + 1 := permitted.1
        simp only [TimerEvent.isAdded, if_true]
        omega
      · have := ih permitted.2 later
        cases event with
        | added new at' given =>
            simp only [record, TimerEvent.isAdded, if_true] at this ⊢
            omega
        | cancelled | nextDeadline | fired | ranDue => exact this

end TimerTable

/-! ## Callers and callbacks -/

/-- Where control is.  `RunDue` is between two rounds of its loop, or in a
callback, with the number of callbacks that have returned. -/
inductive TimerHeap.Activity where
  | idle
  | looping (now : Int) (ran : Nat)
  | inCallback (now : Int) (ran : Nat)

/-- What happens next: a call from outside, a call from a callback, or a step
of `RunDue`. -/
inductive TimerAction (Callback : Type) where
  | add (deadline : Int) (callback : Callback)
  | cancel (id : Nat)
  | nextDeadline
  | runDue (now : Int)
  | round
  | callbackReturns

/-- A timer heap in use. -/
structure TimerProcess (Callback : Type) where
  timers : TimerHeap Callback := {}
  activity : TimerHeap.Activity := .idle

namespace TimerProcess

/-- One round of the loop of `RunDue`, up to the call of the callback. -/
def round (algorithms : TimerHeap.Algorithms) (process : TimerProcess Callback)
    (now : Int) (ran : Nat) :
    List (TimerEvent Callback) × TimerProcess Callback :=
  let taken := process.timers.takeDue algorithms now
  match taken.1 with
  | some (id, callback) =>
      ([.fired now id callback],
        { timers := taken.2, activity := .inCallback now ran })
  | none => ([.ranDue now ran], { timers := taken.2, activity := .idle })

/-- The next thing that happens.  What control does not allow at this point
changes nothing: callbacks only add and cancel timers, and between two rounds
nobody calls. -/
def step (algorithms : TimerHeap.Algorithms) (process : TimerProcess Callback) :
    TimerAction Callback → List (TimerEvent Callback) × TimerProcess Callback
  | .add deadline callback =>
      match process.activity with
      | .looping _ _ => ([], process)
      | .idle | .inCallback _ _ =>
          let added := process.timers.add algorithms deadline callback
          ([.added added.1 deadline callback],
            { process with timers := added.2 })
  | .cancel id =>
      match process.activity with
      | .looping _ _ => ([], process)
      | .idle | .inCallback _ _ =>
          let cancelled := process.timers.cancel id
          ([.cancelled id cancelled.1], { process with timers := cancelled.2 })
  | .nextDeadline =>
      match process.activity with
      | .idle =>
          let next := process.timers.nextDeadline algorithms
          ([.nextDeadline next.1], { process with timers := next.2 })
      | .looping _ _ | .inCallback _ _ => ([], process)
  | .runDue now =>
      match process.activity with
      | .idle => ([], { process with activity := .looping now 0 })
      | .looping _ _ | .inCallback _ _ => ([], process)
  | .round =>
      match process.activity with
      | .looping now ran => process.round algorithms now ran
      | .idle | .inCallback _ _ => ([], process)
  | .callbackReturns =>
      match process.activity with
      | .inCallback now ran =>
          ([], { process with activity := .looping now (ran + 1) })
      | .idle | .looping _ _ => ([], process)

def run (algorithms : TimerHeap.Algorithms) :
    TimerProcess Callback → List (TimerAction Callback) →
      List (TimerEvent Callback) × TimerProcess Callback
  | process, [] => ([], process)
  | process, action :: actions =>
      let first := process.step algorithms action
      let rest := first.2.run algorithms actions
      (first.1 ++ rest.1, rest.2)

end TimerProcess

/-! ## The heap keeps the table -/

namespace TimerHeap

theorem entryLater_eq_false {first second : Entry} :
    entryLater first second = false ↔
      first.deadline < second.deadline ∨
        first.deadline = second.deadline ∧ first.id ≤ second.id := by
  unfold entryLater
  split_ifs with apart
  · rw [decide_eq_false_iff_not]
    omega
  · rw [decide_eq_false_iff_not]
    omega

/-- The heap stores a table: it is in heap order, and the timers with a
callback are those of the table, each with an entry for its deadline. -/
structure Refines (algorithms : Algorithms) (timers : TimerHeap Callback)
    (table : TimerTable Callback) : Prop where
  ordered : algorithms.IsHeap timers.heap
  counted : timers.nextId = table.added + 1
  entries : ∀ id deadline callback,
    table.pending.lookup id = some (deadline, callback) ↔
      timers.callbacks.lookup id = some callback ∧ ⟨deadline, id⟩ ∈ timers.heap

variable {algorithms : Algorithms} {timers : TimerHeap Callback}
  {table : TimerTable Callback}

theorem refines_empty (algorithms : Algorithms) :
    Refines algorithms ({} : TimerHeap Callback) {} where
  ordered := algorithms.isHeap_nil
  counted := rfl
  entries id deadline callback := by simp

namespace Refines

theorem mem_pending (refines : Refines algorithms timers table) (id : Nat) :
    id ∈ table.pending ↔ id ∈ timers.callbacks := by
  constructor
  · intro member
    obtain ⟨⟨deadline, callback⟩, found⟩ := Finmap.mem_iff.mp member
    rw [← AList.lookup_isSome, ((refines.entries id deadline callback).mp found).1]
    rfl
  · intro member
    obtain ⟨callback, found⟩ := Option.isSome_iff_exists.mp
      (AList.lookup_isSome.mpr member)
    obtain ⟨entry, inHeap, rfl⟩ := timers.callback_entry id member
    exact Finmap.mem_of_lookup_eq_some
      ((refines.entries entry.id entry.deadline callback).mpr ⟨found, inHeap⟩)

theorem bounded (refines : Refines algorithms timers table) : table.Bounded := by
  intro id member
  obtain ⟨entry, inHeap, rfl⟩ :=
    timers.callback_entry id ((refines.mem_pending id).mp member)
  have := timers.entry_lt entry inHeap
  have := refines.counted
  omega

theorem size_eq (refines : Refines algorithms timers table) :
    timers.size = table.pending.keys.card := by
  have sameKeys : table.pending.keys = timers.callbacks.toFinmap.keys := by
    ext id
    rw [Finmap.mem_keys, Finmap.mem_keys]
    exact refines.mem_pending id
  rw [sameKeys]
  rfl

theorem add (refines : Refines algorithms timers table) (deadline : Int)
    (callback : Callback) :
    table.Permits (.added (timers.add algorithms deadline callback).1 deadline
        callback) ∧
      Refines algorithms (timers.add algorithms deadline callback).2
        (table.record (.added (timers.add algorithms deadline callback).1
          deadline callback)) := by
  refine ⟨refines.counted, algorithms.push_isHeap _ refines.ordered,
    congrArg (· + 1) refines.counted, ?_⟩
  intro id other given
  have inHeap := (algorithms.push_perm timers.heap
    ⟨deadline, timers.nextId⟩).mem_iff (a := ⟨other, id⟩)
  simp only [TimerTable.record, TimerHeap.add, inHeap, List.mem_cons,
    Entry.mk.injEq]
  by_cases isNew : id = timers.nextId
  · -- No older entry has the new id.
    have notOld : (⟨other, id⟩ : Entry) ∉ timers.heap := by
      intro old
      have := timers.entry_lt _ old
      simp only at this
      omega
    subst isNew
    simp only [Finmap.lookup_insert, AList.lookup_insert, Option.some.injEq,
      Prod.mk.injEq, notOld, or_false, and_true]
    exact ⟨fun same => ⟨same.2, same.1.symm⟩, fun same => ⟨same.2.symm, same.1⟩⟩
  · rw [Finmap.lookup_insert_of_ne _ isNew, AList.lookup_insert_ne isNew,
      refines.entries]
    simp only [isNew, and_false, false_or]

theorem cancel (refines : Refines algorithms timers table) (id : Nat) :
    table.Permits (.cancelled id (timers.cancel id).1) ∧
      Refines algorithms (timers.cancel id).2
        (table.record (.cancelled id (timers.cancel id).1)) := by
  refine ⟨?_, refines.ordered, refines.counted, ?_⟩
  · change decide (timers.Pending id) = true ↔ id ∈ table.pending
    rw [decide_eq_true_iff]
    exact (refines.mem_pending id).symm
  · intro other deadline callback
    simp only [TimerTable.record, cancel_callbacks]
    by_cases same : other = id
    · subst same
      simp
    · rw [Finmap.lookup_erase_ne same, AList.lookup_erase_ne same]
      exact refines.entries other deadline callback

/-- Removing the front entry with its callback, if it still has one, takes the
timer out of the table. -/
theorem popTop (refines : Refines algorithms timers table) {top : Entry}
    {rest : List Entry} (heapEq : timers.heap = top :: rest)
    {callbacks : AList fun _ : Nat => Callback}
    (others : ∀ id ∈ callbacks, id ∈ timers.callbacks ∧ id ≠ top.id)
    (kept : ∀ id, id ≠ top.id →
      callbacks.lookup id = timers.callbacks.lookup id) :
    Refines algorithms (timers.popTop algorithms heapEq callbacks others)
      { table with pending := table.pending.erase top.id } := by
  have ordered := refines.ordered
  rw [heapEq] at ordered
  refine ⟨?_, refines.counted, ?_⟩
  · have popped := algorithms.pop_isHeap ordered
    rw [← heapEq] at popped
    exact popped
  · intro id deadline callback
    by_cases isTop : id = top.id
    · subst isTop
      have dropped : callbacks.lookup top.id = none :=
        AList.lookup_eq_none.mpr fun member => (others _ member).2 rfl
      simp [TimerHeap.popTop, dropped]
    · have inRest : (⟨deadline, id⟩ : Entry) ∈ timers.heap ↔
          ⟨deadline, id⟩ ∈ algorithms.pop timers.heap := by
        rw [heapEq, (algorithms.pop_perm top rest).mem_iff, List.mem_cons]
        refine or_iff_right ?_
        rintro rfl
        exact isTop rfl
      rw [Finmap.lookup_erase_ne isTop, refines.entries, inRest, ← kept id isTop]
      rfl

theorem popCancelled (refines : Refines algorithms timers table) {top : Entry}
    {rest : List Entry} (heapEq : timers.heap = top :: rest)
    (cancelled : top.id ∉ timers.callbacks)
    (others : ∀ id ∈ timers.callbacks, id ∈ timers.callbacks ∧ id ≠ top.id) :
    Refines algorithms
      (timers.popTop algorithms heapEq timers.callbacks others) table := by
  have absent : table.pending.erase top.id = table.pending := by
    refine Finmap.ext_lookup fun id => ?_
    by_cases isTop : id = top.id
    · rw [isTop, Finmap.lookup_erase, eq_comm, Finmap.lookup_eq_none,
        refines.mem_pending]
      exact cancelled
    · exact Finmap.lookup_erase_ne isTop
  have popped := refines.popTop heapEq others fun _ _ => rfl
  rw [absent] at popped
  exact popped

theorem pruneUpTo (fuel : Nat) (refines : Refines algorithms timers table) :
    Refines algorithms (timers.pruneUpTo algorithms fuel) table := by
  induction fuel generalizing timers with
  | zero => exact refines
  | succ fuel ih =>
      unfold TimerHeap.pruneUpTo
      split
      · exact refines
      · rename_i top rest heapEq
        split_ifs with live
        · exact refines
        · exact ih (refines.popCancelled heapEq live _)

theorem pruneCancelledTop (refines : Refines algorithms timers table) :
    Refines algorithms (timers.pruneCancelledTop algorithms) table :=
  refines.pruneUpTo _

/-- The front of the heap comes first in the table. -/
theorem front_least (refines : Refines algorithms timers table) {top : Entry}
    {rest : List Entry} (heapEq : timers.heap = top :: rest) {id : Nat}
    {deadline : Int} (due : table.Due id deadline) :
    top.deadline < deadline ∨ top.deadline = deadline ∧ top.id ≤ id := by
  obtain ⟨callback, found⟩ := due
  have inHeap := ((refines.entries id deadline callback).mp found).2
  have ordered := refines.ordered
  rw [heapEq] at inHeap ordered
  rcases List.mem_cons.mp inHeap with isTop | inRest
  · rw [← isTop]
    exact .inr ⟨rfl, le_rfl⟩
  · exact entryLater_eq_false.mp (algorithms.front_not_later ordered _ inRest)

theorem due_of_empty (refines : Refines algorithms timers table)
    (empty : timers.heap = []) {id : Nat} {deadline : Int} :
    ¬ table.Due id deadline := by
  rintro ⟨callback, found⟩
  have inHeap := ((refines.entries id deadline callback).mp found).2
  rw [empty] at inHeap
  cases inHeap

end Refines

/-- Pruning with enough rounds leaves a pending timer in front. -/
theorem pruneUpTo_front (fuel : Nat) (timers : TimerHeap Callback)
    (enough : timers.heap.length ≤ fuel) {top : Entry} {rest : List Entry}
    (heapEq : (timers.pruneUpTo algorithms fuel).heap = top :: rest) :
    top.id ∈ (timers.pruneUpTo algorithms fuel).callbacks := by
  induction fuel generalizing timers with
  | zero =>
      have empty : timers.heap = [] := List.length_eq_zero_iff.mp (by omega)
      rw [show (timers.pruneUpTo algorithms 0).heap = timers.heap from rfl,
        empty] at heapEq
      cases heapEq
  | succ fuel ih =>
      unfold pruneUpTo at heapEq ⊢
      split at heapEq
      · rename_i empty
        rw [empty] at heapEq
        cases heapEq
      · rename_i front others frontEq
        split_ifs at heapEq ⊢ with live
        · rw [frontEq] at heapEq
          cases heapEq
          exact live
        · refine ih _ ?_ heapEq
          have popped := (algorithms.pop_perm front others).length_eq
          rw [← frontEq] at popped
          simp only [frontEq, List.length_cons] at enough
          simp only [popTop, popped]
          omega

theorem pruneCancelledTop_front (algorithms : Algorithms)
    (timers : TimerHeap Callback) {top : Entry} {rest : List Entry}
    (heapEq : (timers.pruneCancelledTop algorithms).heap = top :: rest) :
    top.id ∈ (timers.pruneCancelledTop algorithms).callbacks :=
  timers.pruneUpTo_front _ le_rfl heapEq

namespace Refines

theorem front_pending (refines : Refines algorithms timers table) {top : Entry}
    {rest : List Entry}
    (heapEq : (timers.pruneCancelledTop algorithms).heap = top :: rest) :
    ∃ callback,
      (timers.pruneCancelledTop algorithms).callbacks.lookup top.id =
        some callback ∧
      table.pending.lookup top.id = some (top.deadline, callback) := by
  obtain ⟨callback, found⟩ := Option.isSome_iff_exists.mp
    (AList.lookup_isSome.mpr (timers.pruneCancelledTop_front algorithms heapEq))
  refine ⟨callback, found, ?_⟩
  refine (refines.pruneCancelledTop.entries _ _ _).mpr ⟨found, ?_⟩
  rw [heapEq]
  exact List.mem_cons_self

theorem nextDeadline (refines : Refines algorithms timers table) :
    table.Permits (.nextDeadline (timers.nextDeadline algorithms).1) ∧
      Refines algorithms (timers.nextDeadline algorithms).2 table := by
  refine ⟨?_, refines.pruneCancelledTop⟩
  unfold TimerHeap.nextDeadline
  simp only
  cases heapEq : (timers.pruneCancelledTop algorithms).heap with
  | nil =>
      refine Finmap.ext_lookup fun id => ?_
      rw [Finmap.lookup_empty, Finmap.lookup_eq_none]
      intro member
      obtain ⟨⟨deadline, callback⟩, found⟩ := Finmap.mem_iff.mp member
      exact refines.pruneCancelledTop.due_of_empty heapEq ⟨callback, found⟩
  | cons top rest =>
      obtain ⟨callback, _, inTable⟩ := refines.front_pending heapEq
      refine ⟨⟨top.id, callback, inTable⟩, ?_⟩
      rintro deadline ⟨id, due⟩
      rcases refines.pruneCancelledTop.front_least heapEq due with
        earlier | ⟨same, _⟩
      · exact earlier.le
      · exact same.le

/-- A round of `RunDue` fires the first timer of the table if that is due, and
nothing only if none is. -/
theorem takeDue (refines : Refines algorithms timers table) (now : Int) :
    (∃ id callback,
      (timers.takeDue algorithms now).1 = some (id, callback) ∧
      table.Permits (.fired now id callback) ∧
      Refines algorithms (timers.takeDue algorithms now).2
        (table.record (.fired now id callback))) ∨
    ((timers.takeDue algorithms now).1 = none ∧
      (∀ ran, table.Permits (.ranDue now ran)) ∧
      Refines algorithms (timers.takeDue algorithms now).2 table) := by
  have pruned := refines.pruneCancelledTop
  unfold TimerHeap.takeDue
  simp only
  split
  · rename_i empty
    exact .inr ⟨rfl, fun _ id deadline due => (pruned.due_of_empty empty due).elim,
      pruned⟩
  · rename_i top rest heapEq
    have first {id deadline} (due : table.Due id deadline) :=
      pruned.front_least heapEq due
    split_ifs with early
    · refine .inr ⟨rfl, ?_, pruned⟩
      intro ran id deadline due
      rcases first due with earlier | ⟨same, _⟩
      · exact early.trans earlier
      · exact same ▸ early
    · obtain ⟨callback, found, inTable⟩ := refines.front_pending heapEq
      split
      · rename_i missing
        rw [found] at missing
        cases missing
      · rename_i given givenEq
        cases found.symm.trans givenEq
        refine .inl ⟨top.id, callback, rfl,
          ⟨top.deadline, inTable, not_lt.mp early, fun _ _ due => first due⟩, ?_⟩
        exact pruned.popTop heapEq
          (fun id member => (AList.mem_erase.mp member).symm)
          fun id apart => AList.lookup_erase_ne apart

end Refines

end TimerHeap

namespace TimerProcess

open TimerHeap

variable {algorithms : TimerHeap.Algorithms} {process : TimerProcess Callback}
  {table : TimerTable Callback}

theorem round_refines (refines : Refines algorithms process.timers table)
    (now : Int) (ran : Nat) :
    table.Permitted (process.round algorithms now ran).1 ∧
      Refines algorithms (process.round algorithms now ran).2.timers
        ((process.round algorithms now ran).1.foldl TimerTable.record table) := by
  unfold round
  rcases refines.takeDue now with
    ⟨id, callback, taken, permits, refined⟩ | ⟨taken, permits, refined⟩
  · simp only [taken]
    exact ⟨⟨permits, trivial⟩, refined⟩
  · simp only [taken]
    exact ⟨⟨permits ran, trivial⟩, refined⟩

/-- Whatever happens next, the table permits what is seen of it. -/
theorem step_refines (refines : Refines algorithms process.timers table)
    (action : TimerAction Callback) :
    table.Permitted (process.step algorithms action).1 ∧
      Refines algorithms (process.step algorithms action).2.timers
        ((process.step algorithms action).1.foldl TimerTable.record table) := by
  have nothing : table.Permitted [] ∧ Refines algorithms process.timers table :=
    ⟨trivial, refines⟩
  obtain ⟨timers, activity⟩ := process
  cases action with
  | add deadline callback =>
      obtain ⟨permits, refined⟩ := refines.add deadline callback
      cases activity with
      | looping => exact nothing
      | idle | inCallback => exact ⟨⟨permits, trivial⟩, refined⟩
  | cancel id =>
      obtain ⟨permits, refined⟩ := refines.cancel id
      cases activity with
      | looping => exact nothing
      | idle | inCallback => exact ⟨⟨permits, trivial⟩, refined⟩
  | nextDeadline =>
      obtain ⟨permits, refined⟩ := refines.nextDeadline
      cases activity with
      | idle => exact ⟨⟨permits, trivial⟩, refined⟩
      | looping | inCallback => exact nothing
  | runDue now => cases activity <;> exact nothing
  | round =>
      cases activity with
      | looping now ran => exact round_refines refines now ran
      | idle | inCallback => exact nothing
  | callbackReturns => cases activity <;> exact nothing

theorem run_refines (actions : List (TimerAction Callback))
    (refines : Refines algorithms process.timers table) :
    table.Permitted (process.run algorithms actions).1 ∧
      Refines algorithms (process.run algorithms actions).2.timers
        ((process.run algorithms actions).1.foldl TimerTable.record table) := by
  induction actions generalizing process table with
  | nil => exact ⟨trivial, refines⟩
  | cons action actions ih =>
      obtain ⟨first, refined⟩ := step_refines refines action
      obtain ⟨rest, refinedRest⟩ := ih refined
      refine ⟨first.append rest, ?_⟩
      simpa only [run, List.foldl_append] using refinedRest

end TimerProcess

/-- Whatever is added, cancelled, asked and run, from outside or by callbacks in the
middle of `RunDue`, and for any heap algorithms: the table permits every answer and every
firing, no timer ends twice, `size` counts the table, each round of `RunDue` fires or
ends the loop, and the callback of the front entry is always found. The ids of fewer than
`2 ^ 64` timers fit the source's counter. -/
theorem lazy_heap_refines_eager_table (algorithms : TimerHeap.Algorithms)
    (actions : List (TimerAction Callback))
    (few : (({} : TimerProcess Callback).run algorithms actions).1.countP
      TimerEvent.isAdded < 2 ^ 64) :
    let ran := ({} : TimerProcess Callback).run algorithms actions
    let table := ran.1.foldl TimerTable.record {}
    ({} : TimerTable Callback).Permitted ran.1 ∧
    (ran.1.filterMap TimerEvent.ends).Nodup ∧
    (∀ id deadline callback, .added id deadline callback ∈ ran.1 → id < 2 ^ 64) ∧
    ran.2.timers.size = table.pending.keys.card ∧
    (∀ now count, ran.2.activity = .looping now count →
      (∃ id callback, (ran.2.step algorithms .round).1 =
        [.fired now id callback]) ∨
      (ran.2.step algorithms .round).1 = [.ranDue now count]) ∧
    (∀ top rest,
      (ran.2.timers.pruneCancelledTop algorithms).heap = top :: rest →
      ((ran.2.timers.pruneCancelledTop algorithms).callbacks.lookup
        top.id).isSome) := by
  intro ran table
  have start : TimerHeap.Refines algorithms
      ({} : TimerProcess Callback).timers {} := TimerHeap.refines_empty algorithms
  obtain ⟨permitted, refined⟩ := TimerProcess.run_refines actions start
  refine ⟨permitted, permitted.ends_nodup start.bounded, ?_, refined.size_eq,
    ?_, ?_⟩
  · intro id deadline callback member
    have := permitted.added_le member
    simp only [Nat.zero_add] at this
    exact this.trans_lt few
  · intro now count looping
    simp only [TimerProcess.step, looping, TimerProcess.round]
    split
    · rename_i id callback _
      exact .inl ⟨id, callback, rfl⟩
    · exact .inr rfl
  · intro top rest heapEq
    exact AList.lookup_isSome.mpr
      (ran.2.timers.pruneCancelledTop_front algorithms heapEq)

/-- A callback that cancels a due timer and adds another in the middle of
`RunDue`: the cancelled timer never fires, and the new one does. -/
theorem reentrant_callback_is_permitted :
    let actions : List (TimerAction Unit) :=
      [.add 5 (), .add 5 (), .add 3 (), .runDue 5, .round, .cancel 1, .add 4 (),
        .callbackReturns, .round, .callbackReturns, .round, .callbackReturns,
        .round, .nextDeadline]
    let ran := ({} : TimerProcess Unit).run TimerHeap.sortedAlgorithms actions
    ran.1.filterMap TimerEvent.ends = [3, 1, 4, 2] ∧
      ({} : TimerTable Unit).Permitted ran.1 :=
  ⟨by decide, (lazy_heap_refines_eager_table TimerHeap.sortedAlgorithms _
    (by decide)).1⟩

end Egrpc
