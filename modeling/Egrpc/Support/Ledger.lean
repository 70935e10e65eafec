import Mathlib.Data.List.Perm.Basic
import Mathlib.Data.List.Nodup
import Mathlib.Logic.Function.Basic

/-!
# Ledgers of open items

Items are admitted one by one and each goes through a life that ends.  A ledger
says that a given list names exactly the admitted items whose life has not
ended, each once.  A component that keeps such items in several places keeps a
ledger of what the places hold together; moving an item between places only
permutes the list.
-/

/-- The life of an item: which states can occur, which of them are final, and
the state of an item that has not been admitted yet. -/
structure Lifecycle (State : Type*) where
  valid : State → Prop
  done : State → Prop
  initial : State
  initial_valid : valid initial
  initial_not_done : ¬ done initial

/-- `items` lists the admitted items that are not done. -/
structure Ledger {Id State : Type*} (life : Lifecycle State) (items : List Id)
    (states : Id → State) (admitted : List Id) : Prop where
  nodup : items.Nodup
  listed : ∀ id ∈ items, id ∈ admitted
  waiting : ∀ id ∈ items, ¬ life.done (states id)
  settled : ∀ id ∈ admitted, id ∉ items → life.done (states id)
  valid : ∀ id, life.valid (states id)
  untouched : ∀ id, id ∉ admitted → states id = life.initial

namespace Ledger

variable {Id State : Type*} {life : Lifecycle State}
  {items items' rest : List Id} {states states' : Id → State} {admitted : List Id}

theorem perm (ledger : Ledger life items states admitted)
    (same : items.Perm items') : Ledger life items' states admitted where
  nodup := same.nodup_iff.mp ledger.nodup
  listed := fun id member => ledger.listed id (same.mem_iff.mpr member)
  waiting := fun id member => ledger.waiting id (same.mem_iff.mpr member)
  settled := fun id member missing =>
    ledger.settled id member (fun present => missing (same.mem_iff.mp present))
  valid := ledger.valid
  untouched := ledger.untouched

theorem nil (initial : ∀ id, states id = life.initial) :
    Ledger life [] states [] where
  nodup := List.nodup_nil
  listed := fun _ member => absurd member List.not_mem_nil
  waiting := fun _ member => absurd member List.not_mem_nil
  settled := fun _ member => absurd member List.not_mem_nil
  valid := fun id => initial id ▸ life.initial_valid
  untouched := fun id _ => initial id

theorem enroll (ledger : Ledger life items states admitted) {id : Id}
    (isNew : id ∉ admitted) :
    Ledger life (id :: items) states (admitted ++ [id]) where
  nodup := List.nodup_cons.mpr
    ⟨fun member => isNew (ledger.listed id member), ledger.nodup⟩
  listed := by
    intro other member
    rcases List.mem_cons.mp member with rfl | old
    · simp
    · exact List.mem_append_left _ (ledger.listed other old)
  waiting := by
    intro other member
    rcases List.mem_cons.mp member with rfl | old
    · rw [ledger.untouched other isNew]
      exact life.initial_not_done
    · exact ledger.waiting other old
  settled := by
    intro other member missing
    rw [List.mem_cons, not_or] at missing
    rcases List.mem_append.mp member with old | isIt
    · exact ledger.settled other old missing.2
    · exact absurd (List.mem_singleton.mp isIt) missing.1
  valid := ledger.valid
  untouched := fun other missing =>
    ledger.untouched other fun member => missing (List.mem_append_left _ member)

theorem update [DecidableEq Id] (ledger : Ledger life items states admitted)
    {id : Id} (member : id ∈ items) {state : State} (valid : life.valid state)
    (waiting : ¬ life.done state) :
    Ledger life items (Function.update states id state) admitted where
  nodup := ledger.nodup
  listed := ledger.listed
  waiting := by
    intro other present
    by_cases same : other = id
    · rw [same, Function.update_self]
      exact waiting
    · rw [Function.update_of_ne same]
      exact ledger.waiting other present
  settled := by
    intro other known missing
    have apart : other ≠ id := fun same => missing (same ▸ member)
    rw [Function.update_of_ne apart]
    exact ledger.settled other known missing
  valid := by
    intro other
    by_cases same : other = id
    · rw [same, Function.update_self]
      exact valid
    · rw [Function.update_of_ne same]
      exact ledger.valid other
  untouched := by
    intro other unknown
    have apart : other ≠ id := fun same =>
      unknown (same ▸ ledger.listed id member)
    rw [Function.update_of_ne apart]
    exact ledger.untouched other unknown

theorem settle (ledger : Ledger life (items ++ rest) states admitted)
    (ended : ∀ id ∈ items, life.valid (states' id) ∧ life.done (states' id))
    (others : ∀ id, id ∉ items → states' id = states id) :
    Ledger life rest states' admitted where
  nodup := (List.nodup_append.mp ledger.nodup).2.1
  listed := fun id member =>
    ledger.listed id (List.mem_append_right _ member)
  waiting := by
    intro id member
    have apart : id ∉ items := fun present =>
      (List.nodup_append.mp ledger.nodup).2.2 id present id member rfl
    rw [others id apart]
    exact ledger.waiting id (List.mem_append_right _ member)
  settled := by
    intro id known missing
    by_cases present : id ∈ items
    · exact (ended id present).2
    · rw [others id present]
      exact ledger.settled id known (by simp [present, missing])
  valid := by
    intro id
    by_cases present : id ∈ items
    · exact (ended id present).1
    · rw [others id present]
      exact ledger.valid id
  untouched := by
    intro id unknown
    have apart : id ∉ items := fun present =>
      unknown (ledger.listed id (List.mem_append_left _ present))
    rw [others id apart]
    exact ledger.untouched id unknown

theorem settle_update [DecidableEq Id] {id : Id}
    (ledger : Ledger life (id :: rest) states admitted) {state : State}
    (valid : life.valid state) (done : life.done state) :
    Ledger life rest (Function.update states id state) admitted := by
  have ended : ∀ other ∈ [id], life.valid (Function.update states id state other) ∧
      life.done (Function.update states id state other) := by
    intro other member
    rw [List.mem_singleton.mp member, Function.update_self]
    exact ⟨valid, done⟩
  refine ledger.settle ended ?_
  intro other apart
  exact Function.update_of_ne (fun same => apart (by simp [same])) _ _

end Ledger
