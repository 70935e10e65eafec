import Mathlib.Data.List.Basic

/-!
# Condition variables

Threads at a monitor either are about to take the mutex and test what they wait
for, or sleep on its condition variable.  A test that fails and the sleep after
it are one step, since `wait` releases the mutex only when it sleeps.  Sleepers
wake when they are notified, and may wake for no reason.

A producer that adds one item at a time and then notifies one thread forgets no
sleeper: as long as a thread sleeps, there are as many threads about to test as
there are items.
-/

/-- The threads at a monitor. -/
structure CondVar (Thread : Type*) where
  checking : List Thread := []
  waiting : List Thread := []

namespace CondVar

variable {Thread : Type*} {c : CondVar Thread} {items : Nat} {t : Thread}
  {woken : Option Thread}

def enter (t : Thread) (c : CondVar Thread) : CondVar Thread :=
  { c with checking := c.checking ++ [t] }

def notifyAll (c : CondVar Thread) : CondVar Thread :=
  { checking := c.checking ++ c.waiting, waiting := [] }

/-- The thread that a notification may wake. -/
def Wakes (woken : Option Thread) (c : CondVar Thread) : Prop :=
  match woken with
  | none => c.waiting = []
  | some t => t ∈ c.waiting

/-- No sleeper is forgotten. -/
def Prompt (items : Nat) (c : CondVar Thread) : Prop :=
  c.waiting ≠ [] → items ≤ c.checking.length

theorem Prompt.of_le {fewer : Nat} (prompt : c.Prompt items) (le : fewer ≤ items) :
    c.Prompt fewer :=
  fun asleep => Nat.le_trans le (prompt asleep)

theorem Prompt.enter (prompt : c.Prompt items) (t : Thread) :
    (c.enter t).Prompt items := by
  intro asleep
  rw [CondVar.enter, List.length_append]
  exact Nat.le_add_right_of_le (prompt asleep)

theorem prompt_of_none (none : c.waiting = []) (items : Nat) : c.Prompt items :=
  fun asleep => absurd none asleep

variable [DecidableEq Thread]

/-- A thread has found what it waits for. -/
def leave (t : Thread) (c : CondVar Thread) : CondVar Thread :=
  { c with checking := c.checking.erase t }

/-- A thread has tested in vain. -/
def sleep (t : Thread) (c : CondVar Thread) : CondVar Thread :=
  { checking := c.checking.erase t, waiting := c.waiting ++ [t] }

def wake (t : Thread) (c : CondVar Thread) : CondVar Thread :=
  { checking := c.checking ++ [t], waiting := c.waiting.erase t }

/-- One sleeper is notified, if there is any. -/
def notifyOne (woken : Option Thread) (c : CondVar Thread) : CondVar Thread :=
  match woken with
  | none => c
  | some t => c.wake t

theorem Prompt.leave (prompt : c.Prompt (items + 1)) (here : t ∈ c.checking) :
    (c.leave t).Prompt items := by
  intro asleep
  rw [CondVar.leave, List.length_erase_of_mem here]
  exact Nat.le_sub_one_of_lt (prompt asleep)

theorem prompt_sleep (t : Thread) (c : CondVar Thread) : (c.sleep t).Prompt 0 :=
  fun _ => Nat.zero_le _

theorem Prompt.wake (prompt : c.Prompt items) (asleep : t ∈ c.waiting) :
    (c.wake t).Prompt (items + 1) := by
  intro _
  rw [CondVar.wake, List.length_append]
  exact Nat.add_le_add_right (prompt (List.ne_nil_of_mem asleep)) 1

/-- One more item, and one more thread to take it. -/
theorem Prompt.notifyOne (prompt : c.Prompt items) (wakes : c.Wakes woken) :
    (c.notifyOne woken).Prompt (items + 1) := by
  cases woken with
  | none => exact prompt_of_none wakes _
  | some t => exact prompt.wake wakes

theorem notifyOne_waiting (none : c.waiting = []) :
    (c.notifyOne woken).waiting = [] := by
  cases woken with
  | none => exact none
  | some t => rw [CondVar.notifyOne, CondVar.wake, none, List.erase_nil]

end CondVar
