import Egrpc.CustomChannel
import Egrpc.Support.CondVar
import Egrpc.Support.Runs

/-!
# The completion queue

The asynchronous stubs do no I/O, but a caller of theirs still waits for tags.
An operation that is started puts its tag into the completion queue at once,
with `ok` for `Finish` and without it for everything else; `Finish` has stored
an unimplemented status before.  Any number of threads start operations, take
tags with `Next` and `AsyncNext`, and shut the queue down.

Every critical section of the queue's mutex is one step here, and so is the
store of a status.  A thread in `Next` tests the queue, and sleeps on the
condition variable if there is nothing and no shutdown.
-/

namespace Egrpc

/-- An operation on an asynchronous stub: one that would have needed the wire, or
`Finish` with the place for its status. -/
inductive AsyncOp (Tag : Type)
  | failedOp (tag : Tag)
  | finish (status : Option Nat) (tag : Tag)

/-- What comes out of the queue for an operation: its tag, and `ok`. -/
def AsyncOp.event {Tag : Type} : AsyncOp Tag → Tag × Bool
  | .failedOp tag => (tag, false)
  | .finish _ tag => (tag, true)

/-- The status of every operation that finishes. -/
def AsyncOp.unimplemented : Status where
  code := .unimplemented
  message := Bytes.ofString "async API not supported by egrpc"

/-- What `Next` and `AsyncNext` answer; `Next` says false for a shutdown. -/
inductive NextAnswer (Tag : Type)
  | gotEvent (event : Tag × Bool)
  | shutdown
  | timeout

def NextAnswer.event? {Tag : Type} : NextAnswer Tag → Option (Tag × Bool)
  | .gotEvent event => some event
  | .shutdown | .timeout => none

/-- A completion queue with the threads around it, and what they have done so
far.  With each answer goes the number of operations enqueued before it. -/
structure CompletionQueue (Tag : Type) where
  queue : List (Tag × Bool) := []
  isShutdown : Bool := false
  cv : CondVar Nat := {}
  /-- The operations whose threads are about to enqueue the tag. -/
  starting : List (AsyncOp Tag) := []
  statuses : Nat → Option Status := fun _ => none
  enqueued : List (AsyncOp Tag) := []
  answers : List (NextAnswer Tag × Nat) := []

inductive QueueStep (Tag : Type)
  /-- Start an operation on a stub that has a queue, or has none. -/
  | start (op : AsyncOp Tag) (bound : Bool)
  /-- Enqueue the tag of an operation and notify one sleeper. -/
  | enqueueTag (index : Nat) (woken : Option Nat)
  | next (thread : Nat)
  /-- A thread in `Next` tests the queue. -/
  | check (thread : Nat)
  | wake (thread : Nat)
  | asyncNext
  | shutdown

namespace CompletionQueue

variable {Tag : Type} {q : CompletionQueue Tag}

def deposit (op : AsyncOp Tag) (q : CompletionQueue Tag) : CompletionQueue Tag :=
  match op with
  | .finish (some status) _ =>
      { q with statuses := Function.update q.statuses status (some AsyncOp.unimplemented) }
  | .finish none _ | .failedOp _ => q

def answer (given : NextAnswer Tag) (q : CompletionQueue Tag) : CompletionQueue Tag :=
  { q with answers := q.answers ++ [(given, q.enqueued.length)] }

/-- The critical section of `EgrpcEnqueueTag`. -/
def egrpcEnqueueTag (op : AsyncOp Tag) (woken : Option Nat) (q : CompletionQueue Tag) :
    CompletionQueue Tag :=
  { q with
    queue := q.queue ++ [op.event]
    cv := q.cv.notifyOne woken
    enqueued := q.enqueued ++ [op] }

/-- The critical section of `Next`, up to the return or the sleep. -/
def check (thread : Nat) (q : CompletionQueue Tag) : CompletionQueue Tag :=
  if q.queue.isEmpty && !q.isShutdown then { q with cv := q.cv.sleep thread }
  else
    match q.queue with
    | [] => { q with cv := q.cv.leave thread }.answer .shutdown
    | event :: queue =>
        { q with queue := queue, cv := q.cv.leave thread }.answer (.gotEvent event)

/-- `AsyncNext`; it never blocks. -/
def asyncNext (q : CompletionQueue Tag) : CompletionQueue Tag :=
  match q.queue with
  | event :: queue => { q with queue := queue }.answer (.gotEvent event)
  | [] => q.answer (if q.isShutdown then .shutdown else .timeout)

def shutdown (q : CompletionQueue Tag) : CompletionQueue Tag :=
  { q with isShutdown := true, cv := q.cv.notifyAll }

def step (q : CompletionQueue Tag) : QueueStep Tag → CompletionQueue Tag
  | .start op bound =>
      let q := q.deposit op
      if bound then { q with starting := q.starting ++ [op] } else q
  | .enqueueTag index woken =>
      match q.starting[index]? with
      | none => q
      | some op =>
          { q with starting := q.starting.eraseIdx index }.egrpcEnqueueTag op woken
  | .next thread => { q with cv := q.cv.enter thread }
  | .check thread => q.check thread
  | .wake thread => { q with cv := q.cv.wake thread }
  | .asyncNext => q.asyncNext
  | .shutdown => q.shutdown

/-- A thread tests or wakes where it is, and a notification wakes a sleeper if
there is any. -/
def Admits (q : CompletionQueue Tag) : QueueStep Tag → Prop
  | .enqueueTag _ woken => q.cv.Wakes woken
  | .check thread => thread ∈ q.cv.checking
  | .wake thread => thread ∈ q.cv.waiting
  | .start _ _ | .next _ | .asyncNext | .shutdown => True

abbrev Reachable (q : CompletionQueue Tag) : Prop :=
  Runs.Reach step Admits (· = {}) q

/-! ## The invariant -/

def events (answers : List (NextAnswer Tag × Nat)) : List (Tag × Bool) :=
  answers.filterMap fun given => given.1.event?

/-- The status of an operation is stored if it has a place for one. -/
def Deposited (statuses : Nat → Option Status) : AsyncOp Tag → Prop
  | .finish (some status) _ => statuses status = some AsyncOp.unimplemented
  | .finish none _ | .failedOp _ => True

/-- Whoever got no event had seen all there was. -/
def Drained (answers : List (NextAnswer Tag × Nat)) : Prop :=
  ∀ before given count after, answers = before ++ (given, count) :: after →
    given.event? = none → (events before).length = count

structure Sound (q : CompletionQueue Tag) : Prop where
  order : events q.answers ++ q.queue = q.enqueued.map AsyncOp.event
  drained : Drained q.answers
  prompt : q.cv.Prompt q.queue.length
  awake : q.isShutdown = true → q.cv.waiting = []
  told : (∃ count, (.shutdown, count) ∈ q.answers) → q.isShutdown = true
  deposited : ∀ op ∈ q.starting ++ q.enqueued, Deposited q.statuses op

theorem events_append (answers : List (NextAnswer Tag × Nat)) (given : NextAnswer Tag)
    (count : Nat) :
    events (answers ++ [(given, count)]) = events answers ++ given.event?.toList := by
  cases given <;> simp [events, NextAnswer.event?]

theorem Drained.answer {answers : List (NextAnswer Tag × Nat)} (drained : Drained answers)
    {given : NextAnswer Tag} {count : Nat}
    (all : given.event? = none → (events answers).length = count) :
    Drained (answers ++ [(given, count)]) := by
  intro before given' count' after split none
  rcases List.eq_nil_or_concat after with rfl | ⟨init, last, rfl⟩
  · obtain ⟨rfl, same⟩ := List.append_inj' split rfl
    cases same
    exact all none
  · rw [List.concat_eq_append, ← List.cons_append, ← List.append_assoc] at split
    exact drained before given' count' init (List.append_inj' split rfl).1 none

theorem Deposited.deposit {op : AsyncOp Tag} (stored : Deposited q.statuses op)
    (other : AsyncOp Tag) : Deposited (q.deposit other).statuses op := by
  cases other with
  | failedOp tag => exact stored
  | finish status tag =>
      cases status with
      | none => exact stored
      | some place =>
          cases op with
          | failedOp tag => trivial
          | finish status tag =>
              cases status with
              | none => trivial
              | some place' =>
                  by_cases same : place' = place
                  · subst same
                    exact Function.update_self ..
                  · exact (Function.update_of_ne same ..).trans stored

theorem deposited_deposit (op : AsyncOp Tag) : Deposited (q.deposit op).statuses op := by
  cases op with
  | failedOp tag => trivial
  | finish status tag =>
      cases status with
      | none => trivial
      | some place => exact Function.update_self ..

theorem deposit_eq (op : AsyncOp Tag) :
    q.deposit op = { q with statuses := (q.deposit op).statuses } := by
  cases op with
  | failedOp tag => rfl
  | finish status tag => cases status <;> rfl

theorem Sound.start (sound : q.Sound) (op : AsyncOp Tag) (bound : Bool) :
    (q.step (.start op bound)).Sound := by
  have stored : ∀ other ∈ q.starting ++ q.enqueued,
      Deposited (q.deposit op).statuses other := fun other member =>
    (sound.deposited other member).deposit op
  have deposited : (q.deposit op).Sound := by
    rw [deposit_eq]
    exact { sound with deposited := stored }
  simp only [CompletionQueue.step]
  split_ifs
  · refine { deposited with deposited := fun other member => ?_ }
    rw [deposit_eq] at member
    simp only [List.mem_append, List.mem_singleton] at member
    rcases member with (old | rfl) | old
    · exact stored other (List.mem_append_left _ old)
    · exact deposited_deposit other
    · exact stored other (List.mem_append_right _ old)
  · exact deposited

theorem Sound.enqueueTag (sound : q.Sound) {index : Nat} {woken : Option Nat}
    (wakes : q.cv.Wakes woken) : (q.step (.enqueueTag index woken)).Sound := by
  simp only [CompletionQueue.step]
  split
  · exact sound
  · rename_i op found
    refine
      { order := ?_
        drained := sound.drained
        prompt := ?_
        awake := fun down => CondVar.notifyOne_waiting (sound.awake down)
        told := sound.told
        deposited := fun other member => sound.deposited other ?_ }
    · simp only [egrpcEnqueueTag, ← List.append_assoc, sound.order, List.map_append,
        List.map_singleton]
    · simp only [egrpcEnqueueTag, List.length_append, List.length_singleton]
      exact sound.prompt.notifyOne wakes
    · simp only [egrpcEnqueueTag, List.mem_append, List.mem_singleton] at member ⊢
      rcases member with old | old | rfl
      · exact .inl (List.mem_of_mem_eraseIdx old)
      · exact .inr old
      · exact .inl (List.mem_of_getElem? found)

/-- An answer is given, with the front of the queue if it has one. -/
theorem Sound.answer (sound : q.Sound) {given : NextAnswer Tag}
    {queue : List (Tag × Bool)} {cv : CondVar Nat}
    (front : given.event?.toList ++ queue = q.queue)
    (drained : given.event? = none → q.queue = [])
    (prompt : cv.Prompt queue.length)
    (awake : q.isShutdown = true → cv.waiting = [])
    (told : given = .shutdown → q.isShutdown = true) :
    ({ q with queue := queue, cv := cv }.answer given).Sound where
  order := by
    simp only [CompletionQueue.answer, events_append, List.append_assoc, front]
    exact sound.order
  drained := by
    refine sound.drained.answer fun none => ?_
    have order := congrArg List.length sound.order
    rw [drained none, List.append_nil, List.length_map] at order
    exact order
  prompt := prompt
  awake := awake
  told := by
    rintro ⟨count, member⟩
    rcases List.mem_append.mp member with old | isIt
    · exact sound.told ⟨count, old⟩
    · cases List.mem_singleton.mp isIt
      exact told rfl
  deposited := sound.deposited

theorem Sound.check (sound : q.Sound) {thread : Nat} (here : thread ∈ q.cv.checking) :
    (q.check thread).Sound := by
  unfold CompletionQueue.check
  split_ifs with sleeps
  · obtain ⟨empty, up⟩ : q.queue = [] ∧ q.isShutdown = false := by simpa using sleeps
    refine { sound with prompt := ?_, awake := fun down => ?_ }
    · change (q.cv.sleep thread).Prompt q.queue.length
      rw [empty]
      exact CondVar.prompt_sleep thread q.cv
    · cases up.symm.trans down
  · split
    · rename_i empty
      have down : q.isShutdown = true := by simpa [empty] using sleeps
      have nobody : (q.cv.leave thread).waiting = [] := sound.awake down
      exact sound.answer rfl (fun _ => empty) (CondVar.prompt_of_none nobody _)
        (fun _ => nobody) fun _ => down
    · rename_i event rest queue
      have prompt := sound.prompt
      rw [queue] at prompt
      exact sound.answer queue.symm (fun none => by cases none) (prompt.leave here)
        sound.awake fun same => by cases same

theorem Sound.asyncNext (sound : q.Sound) : q.asyncNext.Sound := by
  unfold CompletionQueue.asyncNext
  split
  · rename_i event rest queue
    have prompt := sound.prompt
    rw [queue] at prompt
    exact sound.answer queue.symm (fun none => by cases none)
      (prompt.of_le (Nat.le_succ _)) sound.awake fun same => by cases same
  · rename_i empty
    split_ifs with down
    · exact sound.answer rfl (fun _ => empty) sound.prompt sound.awake fun _ => down
    · exact sound.answer rfl (fun _ => empty) sound.prompt sound.awake
        fun same => by cases same

theorem Sound.step (sound : q.Sound) {action : QueueStep Tag} (admits : q.Admits action) :
    (q.step action).Sound := by
  cases action with
  | start op bound => exact sound.start op bound
  | enqueueTag index woken => exact sound.enqueueTag admits
  | next thread => exact { sound with prompt := sound.prompt.enter thread }
  | check thread => exact sound.check admits
  | wake thread =>
      refine { sound with prompt := ?_, awake := fun down => ?_ }
      · exact (sound.prompt.wake admits).of_le (Nat.le_succ _)
      · exact absurd (sound.awake down) (List.ne_nil_of_mem admits)
  | asyncNext => exact sound.asyncNext
  | shutdown =>
      exact { sound with
        prompt := CondVar.prompt_of_none rfl _
        awake := fun _ => rfl
        told := fun _ => rfl }

theorem Reachable.sound (reachable : q.Reachable) : q.Sound := by
  refine Runs.Reach.invariant Sound ?_ (fun _ _ sound admits => sound.step admits) reachable
  rintro _ rfl
  exact
    { order := rfl
      drained := fun before given count after split => by simp at split
      prompt := CondVar.prompt_of_none rfl _
      awake := fun _ => rfl
      told := by simp
      deposited := by simp }

/-- In every interleaving of threads that start operations, take tags and shut the queue
down: the events given out, followed by those in the queue, are those of the operations
in the order in which they were enqueued; an answer without an event came when all that
had been enqueued was given out, and `Next` says false only after a shutdown; no thread
sleeps after a shutdown, and as long as one sleeps there are enough threads awake for the
tags in the queue; and when the tag of a `Finish` is out, its status is stored. -/
theorem completion_queue_delivers (reachable : q.Reachable) :
    events q.answers ++ q.queue = q.enqueued.map AsyncOp.event ∧
    Drained q.answers ∧
    ((∃ count, (.shutdown, count) ∈ q.answers) → q.isShutdown = true) ∧
    (q.cv.waiting ≠ [] →
      q.isShutdown = false ∧ q.queue.length ≤ q.cv.checking.length) ∧
    ∀ place tag, .finish (some place) tag ∈ q.enqueued →
      q.statuses place = some AsyncOp.unimplemented := by
  have sound := reachable.sound
  refine ⟨sound.order, sound.drained, sound.told, fun asleep => ⟨?_, sound.prompt asleep⟩,
    fun place tag member => ?_⟩
  · cases down : q.isShutdown with
    | false => rfl
    | true => exact absurd (sound.awake down) asleep
  · exact sound.deposited _ (List.mem_append_right _ member)

/-- Thread 0 sleeps in `Next` and is woken for a tag that thread 1 takes first;
it sleeps again until the shutdown. -/
def sampleRun : List (QueueStep Nat) :=
  [.next 0, .check 0, .start (.finish (some 7) 5) true, .enqueueTag 0 (some 0), .next 1,
    .check 1, .check 0, .shutdown, .check 0]

theorem sampleRun_delivers :
    let q := sampleRun.foldl step {}
    q.answers.length = 2 ∧ events q.answers ++ q.queue = [(5, true)] ∧
      q.isShutdown = true ∧ q.statuses 7 = some AsyncOp.unimplemented := by
  intro q
  have admitted : Runs.Admitted step Admits {} sampleRun := by
    refine ⟨trivial, ?_, trivial, ?_, trivial, ?_, ?_, trivial, ?_, trivial⟩
    · exact List.mem_cons_self
    · exact List.mem_cons_self
    · exact List.mem_cons_of_mem _ List.mem_cons_self
    · exact List.mem_cons_self
    · exact List.mem_cons_self
  have reachable : q.Reachable :=
    admitted.invariant (fun _ q => q.Reachable) (.start rfl)
      fun _ _ _ reached admits => reached.next admits
  obtain ⟨order, -, down, -, stored⟩ := completion_queue_delivers reachable
  exact ⟨rfl, order, down ⟨1, List.mem_cons_of_mem _ List.mem_cons_self⟩,
    stored 7 5 List.mem_cons_self⟩

end CompletionQueue

end Egrpc
