import Mathlib.Logic.Basic

/-!
# The event thread

`EventThread` runs a loop that owns part of the program's state.  Other threads
reach it through a queue of operations and a stop flag, both under one mutex,
and an eventfd that wakes the loop.  Every critical section of the mutex is one
step here; so is everything the loop does between two points at which another
thread may come in between.
-/

namespace Egrpc

/-- The largest count an eventfd holds. -/
def Wakeup.capacity : Nat := 18446744073709551614

/-- The eventfd of a `Wakeup`: a counter that saturates. -/
structure Wakeup where
  count : Nat := 0
  saturates : count ≤ Wakeup.capacity := by exact Nat.zero_le _

/-- Wake the loop.  A saturated counter refuses to count further. -/
def Wakeup.notify (wakeup : Wakeup) : Wakeup :=
  if room : wakeup.count < capacity then ⟨wakeup.count + 1, room⟩ else wakeup

theorem Wakeup.notify_pos (wakeup : Wakeup) : 0 < wakeup.notify.count := by
  unfold notify
  split
  · exact Nat.succ_pos _
  · rename_i full
    exact Nat.lt_of_lt_of_le (by decide) (Nat.not_lt.mp full)

def Wakeup.drain (_ : Wakeup) : Wakeup := {}

/-- What `poll` answers: `EINTR`, another error, or the returned events of the
wakeup descriptor and of the watched one. -/
inductive PollAnswer
  | interrupted
  | failed
  | returned (wakeup socket : Nat)
  deriving DecidableEq

/-- Where the loop stands. -/
inductive Loop (Op : Type)
  /-- Before the critical section of `RunPendingOps`. -/
  | runPendingOps
  /-- The operations still to run of those taken, and the stop flag as it was. -/
  | running (ops : List Op) (stopping : Bool)
  | runDue (now : Int)
  | preparePoll
  /-- In `poll`, with the mask for the watched descriptor, if there is one. -/
  | poll (events : Option Nat) (timeoutMs : Int)
  | drain (watching : Bool) (wakeup socket : Nat)
  | dispatch (watching : Bool) (socket : Nat)
  | exited

/-- The operations that the loop has taken and not run. -/
def Loop.remaining {Op : Type} : Loop Op → List Op
  | .running ops _ => ops
  | .runPendingOps | .runDue _ | .preparePoll | .poll _ _ | .drain _ _ _
  | .dispatch _ _ | .exited => []

/-- The loop has seen the stop flag. -/
def Loop.Last {Op : Type} : Loop Op → Prop
  | .running _ stopping => stopping = true
  | .exited => True
  | .runPendingOps | .runDue _ | .preparePoll | .poll _ _ | .drain _ _ _
  | .dispatch _ _ => False

/-- The loop has looked at the queue, has seen no stop, and has not drained the
eventfd since. -/
def Loop.Swept {Op : Type} : Loop Op → Prop
  | .running _ stopping => stopping = false
  | .runDue _ | .preparePoll | .poll _ _ => True
  | .runPendingOps | .drain _ _ _ | .dispatch _ _ | .exited => False

/-- What runs on the event thread, on the state it owns. -/
structure EventThread.Callbacks (Op State : Type) where
  runOp : Op → State → State
  readClock : State → Int × State
  /-- One round of `RunDue`, and whether a timer was due. -/
  runDueRound : Int → State → Bool × State
  /-- The mask and the timeout for `poll`. -/
  preparePoll : State → (Option Nat × Int) × State
  onReady : Nat → State → State

/-- An event thread with the state it owns. -/
structure EventThread (Op State : Type) where
  ops : List Op := []
  stopRequested : Bool := false
  started : Bool := false
  joined : Bool := false
  wakeup : Wakeup := {}
  loop : Loop Op := .runPendingOps
  owned : State

namespace EventThread

variable {Op State : Type}

/-- The operations that were accepted and have not been run. -/
def waiting (thread : EventThread Op State) : List Op :=
  thread.loop.remaining ++ thread.ops

/-- The critical section of `Post`. -/
def post (op : Op) (thread : EventThread Op State) :
    Bool × EventThread Op State :=
  if thread.stopRequested then (false, thread)
  else (true, { thread with ops := thread.ops ++ [op] })

theorem post_of_stopped {thread : EventThread Op State}
    (stop : thread.stopRequested = true) (op : Op) :
    thread.post op = (false, thread) :=
  if_pos stop

theorem post_of_running {thread : EventThread Op State}
    (run : thread.stopRequested = false) (op : Op) :
    thread.post op = (true, { thread with ops := thread.ops ++ [op] }) :=
  if_neg (by simp [run])

theorem post_owned (op : Op) (thread : EventThread Op State) :
    (thread.post op).2.owned = thread.owned := by
  unfold post
  split <;> rfl

/-- The critical section of `Stop`; the answer says whether to join. -/
def requestStop (thread : EventThread Op State) : Bool × EventThread Op State :=
  let thread := { thread with stopRequested := true }
  if thread.started && !thread.joined then (true, { thread with joined := true })
  else (false, thread)

theorem requestStop_eq (thread : EventThread Op State) :
    ∃ joined, thread.requestStop.2 =
      { thread with stopRequested := true, joined := joined } := by
  unfold requestStop
  simp only
  split
  · exact ⟨true, rfl⟩
  · exact ⟨thread.joined, rfl⟩

def notify (thread : EventThread Op State) : EventThread Op State :=
  { thread with wakeup := thread.wakeup.notify }

/-- The critical section of `RunPendingOps`. -/
def swapOps (thread : EventThread Op State) : EventThread Op State :=
  { thread with ops := [], loop := .running thread.ops thread.stopRequested }

/-- One step of the loop.  The answer is used when the loop is in `poll`. -/
def step (callbacks : Callbacks Op State) (answer : PollAnswer)
    (thread : EventThread Op State) : EventThread Op State :=
  match thread.loop with
  | .runPendingOps => thread.swapOps
  | .running (op :: ops) stopping =>
      { thread with
        loop := .running ops stopping
        owned := callbacks.runOp op thread.owned }
  | .running [] true => { thread with loop := .exited }
  | .running [] false =>
      let clock := callbacks.readClock thread.owned
      { thread with loop := .runDue clock.1, owned := clock.2 }
  | .runDue now =>
      let round := callbacks.runDueRound now thread.owned
      { thread with
        loop := if round.1 then .runDue now else .preparePoll
        owned := round.2 }
  | .preparePoll =>
      let prepared := callbacks.preparePoll thread.owned
      { thread with
        loop := .poll prepared.1.1 prepared.1.2
        owned := prepared.2 }
  | .poll events _ =>
      match answer with
      | .interrupted => { thread with loop := .runPendingOps }
      | .failed => { thread with loop := .exited }
      | .returned wakeup socket =>
          { thread with loop := .drain events.isSome wakeup socket }
  | .drain watching wakeup socket =>
      { thread with
        wakeup := if wakeup ≠ 0 then thread.wakeup.drain else thread.wakeup
        loop := .dispatch watching socket }
  | .dispatch watching socket =>
      { thread with
        loop := .runPendingOps
        owned :=
          if watching ∧ socket ≠ 0 then callbacks.onReady socket thread.owned
          else thread.owned }
  | .exited => thread

/-! ## What a step of the loop does -/

variable {callbacks : Callbacks Op State} {answer : PollAnswer}
  {thread : EventThread Op State}

/-- What the loop does to the state between two operations. -/
inductive Callbacks.Attends (callbacks : Callbacks Op State) (owned : State) : State → Prop
  | nothing : Attends callbacks owned owned
  | readClock : Attends callbacks owned (callbacks.readClock owned).2
  | runDueRound (now : Int) : Attends callbacks owned (callbacks.runDueRound now owned).2
  | preparePoll : Attends callbacks owned (callbacks.preparePoll owned).2
  | onReady (revents : Nat) : Attends callbacks owned (callbacks.onReady revents owned)

/-- A step between two operations.  What the loop has seen of the queue stays true
unless it drains the eventfd. -/
structure Between (callbacks : Callbacks Op State) (answer : PollAnswer)
    (thread thread' : EventThread Op State) : Prop where
  before : thread.loop.remaining = []
  after : thread'.loop.remaining = []
  ops : thread'.ops = thread.ops
  attends : callbacks.Attends thread.owned thread'.owned
  swept : thread'.loop.Swept → thread.loop.Swept ∧ thread'.wakeup = thread.wakeup
  last : answer ≠ .failed → thread'.loop.Last → thread.loop.Last

/-- What a step does to the operations: it takes those of the queue, runs the next
of those taken, or is between two operations. -/
inductive QueueStep (callbacks : Callbacks Op State) (answer : PollAnswer)
    (thread : EventThread Op State) : EventThread Op State → Prop
  | take (here : thread.loop = .runPendingOps) :
      QueueStep callbacks answer thread thread.swapOps
  | run {op : Op} {ops : List Op} {stopping : Bool}
      (here : thread.loop = .running (op :: ops) stopping) :
      QueueStep callbacks answer thread
        { thread with
          loop := .running ops stopping
          owned := callbacks.runOp op thread.owned }
  | between {thread' : EventThread Op State}
      (between : Between callbacks answer thread thread') :
      QueueStep callbacks answer thread thread'

theorem queueStep (callbacks : Callbacks Op State) (answer : PollAnswer)
    (thread : EventThread Op State) :
    QueueStep callbacks answer thread (thread.step callbacks answer) := by
  simp only [step]
  cases loop : thread.loop with
  | runPendingOps => exact .take loop
  | running ops stopping =>
      cases ops with
      | cons op ops => exact .run loop
      | nil =>
          have none : thread.loop.remaining = [] := by rw [loop]; rfl
          cases stopping with
          | true =>
              exact .between ⟨none, rfl, rfl, .nothing, False.elim, fun _ _ => by rw [loop]; rfl⟩
          | false =>
              exact .between ⟨none, rfl, rfl, .readClock, fun _ => ⟨by rw [loop]; rfl, rfl⟩,
                fun _ => False.elim⟩
  | runDue now =>
      have none : thread.loop.remaining = [] := by rw [loop]; rfl
      have swept : thread.loop.Swept := by rw [loop]; trivial
      simp only
      split
      · exact .between ⟨none, rfl, rfl, .runDueRound now, fun _ => ⟨swept, rfl⟩,
          fun _ => False.elim⟩
      · exact .between ⟨none, rfl, rfl, .runDueRound now, fun _ => ⟨swept, rfl⟩,
          fun _ => False.elim⟩
  | preparePoll =>
      exact .between ⟨by rw [loop]; rfl, rfl, rfl, .preparePoll,
        fun _ => ⟨by rw [loop]; trivial, rfl⟩, fun _ => False.elim⟩
  | poll events timeoutMs =>
      have none : thread.loop.remaining = [] := by rw [loop]; rfl
      cases answer with
      | failed =>
          exact .between ⟨none, rfl, rfl, .nothing, False.elim, fun sane => absurd rfl sane⟩
      | interrupted | returned =>
          exact .between ⟨none, rfl, rfl, .nothing, False.elim, fun _ => False.elim⟩
  | drain watching wakeup socket =>
      exact .between ⟨by rw [loop]; rfl, rfl, rfl, .nothing, False.elim, fun _ => False.elim⟩
  | dispatch watching socket =>
      have none : thread.loop.remaining = [] := by rw [loop]; rfl
      simp only
      split
      · exact .between ⟨none, rfl, rfl, .onReady socket, False.elim, fun _ => False.elim⟩
      · exact .between ⟨none, rfl, rfl, .nothing, False.elim, fun _ => False.elim⟩
  | exited =>
      exact .between ⟨by rw [loop]; rfl, by rw [loop]; rfl, rfl, .nothing,
        fun swept => ⟨swept, rfl⟩, fun _ last => last⟩

variable {thread' : EventThread Op State}

theorem Between.waiting_eq (between : Between callbacks answer thread thread') :
    thread'.waiting = thread.waiting := by
  rw [waiting, waiting, between.before, between.after, between.ops]

/-- An operation waits until the loop runs it. -/
theorem QueueStep.waits (moved : QueueStep callbacks answer thread thread') {op : Op}
    (waits : op ∈ thread.waiting) :
    op ∈ thread'.waiting ∨ thread'.owned = callbacks.runOp op thread.owned := by
  cases moved with
  | take here =>
      rw [waiting, here] at waits
      exact .inl (List.mem_append_left _ waits)
  | run here =>
      rw [waiting, here] at waits
      rcases List.mem_cons.mp waits with rfl | later
      · exact .inr rfl
      · exact .inl later
  | between between =>
      rw [← between.waiting_eq] at waits
      exact .inl waits

/-- What the loop knows of the queue when it has looked at it: it has just found
nothing, or it knew before and nobody woke it or took the wakeup. -/
theorem QueueStep.swept (moved : QueueStep callbacks answer thread thread')
    (swept : thread'.loop.Swept) :
    thread'.ops = [] ∧ thread.stopRequested = false ∨
      thread.loop.Swept ∧ thread'.ops = thread.ops ∧ thread'.wakeup = thread.wakeup := by
  cases moved with
  | take => exact .inl ⟨rfl, swept⟩
  | run here =>
      rw [here]
      exact .inr ⟨swept, rfl, rfl⟩
  | between between =>
      obtain ⟨before, wakeup⟩ := between.swept swept
      exact .inr ⟨before, between.ops, wakeup⟩

/-- When the loop has seen the stop flag, it has just looked at the queue or had seen
the flag before. -/
theorem QueueStep.last (moved : QueueStep callbacks answer thread thread')
    (sane : answer ≠ .failed) (last : thread'.loop.Last) :
    thread'.ops = [] ∧ thread.stopRequested = true ∨
      thread.loop.Last ∧ thread'.ops = thread.ops := by
  cases moved with
  | take => exact .inl ⟨rfl, last⟩
  | run here =>
      rw [here]
      exact .inr ⟨last, rfl⟩
  | between between => exact .inr ⟨between.last sane last, between.ops⟩

/-- The loop does not touch what is for the threads that start and stop it. -/
theorem step_flags (callbacks : Callbacks Op State) (answer : PollAnswer) :
    (thread.step callbacks answer).started = thread.started ∧
      (thread.step callbacks answer).joined = thread.joined ∧
      (thread.step callbacks answer).stopRequested = thread.stopRequested := by
  unfold step
  split <;> first | exact ⟨rfl, rfl, rfl⟩ | (split <;> exact ⟨rfl, rfl, rfl⟩)

end EventThread

end Egrpc
