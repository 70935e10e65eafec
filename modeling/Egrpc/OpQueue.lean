import Egrpc.EventThread
import Egrpc.Support.Runs
import Mathlib.Data.List.Nodup
import Mathlib.Logic.Function.Basic

/-!
# The operation queue of the event thread

Any number of threads call `Post` and `Stop` while the loop runs, and what the
loop runs may call `Post` as well.  `Post` and `Stop` first take a critical
section and then notify the eventfd; the loop drains the eventfd first and then
takes its critical section.  A state records where every call stands and the
operations in the order in which they were pushed.  Which operations have run is
told by `runOp` itself: the callbacks are run on a state with a log, to which every
application of `runOp` adds its operation.

Every call of `Post` has a number, which is also the operation it posts: two
calls never post the same operation.
-/

namespace Egrpc

/-- Where a call of `Post` stands. -/
inductive PostCall
  | called
  /-- The operation is pushed, and the loop not yet notified. -/
  | notify
  | returned (accepted : Bool)
  deriving DecidableEq

/-- Where a call of `Stop` stands. -/
inductive StopCall
  | called
  | notify (mustJoin : Bool)
  | join
  | returned
  deriving DecidableEq

/-- The loop runs code that may call `Post`. -/
def Loop.inCallback {Op : Type} : Loop Op → Bool
  | .running (_ :: _) _ | .runDue _ | .preparePoll | .dispatch _ _ => true
  | .running [] _ | .runPendingOps | .poll _ _ | .drain _ _ _ | .exited => false

/-- A state and the operations that were run on it. -/
structure Logged (State : Type) where
  state : State
  ran : List Nat := []

/-- The same callbacks; running an operation also logs it. -/
def EventThread.Callbacks.logging {State : Type} (callbacks : EventThread.Callbacks Nat State) :
    EventThread.Callbacks Nat (Logged State) where
  runOp op owned := ⟨callbacks.runOp op owned.state, owned.ran ++ [op]⟩
  readClock owned :=
    ((callbacks.readClock owned.state).1, ⟨(callbacks.readClock owned.state).2, owned.ran⟩)
  runDueRound now owned :=
    ((callbacks.runDueRound now owned.state).1,
      ⟨(callbacks.runDueRound now owned.state).2, owned.ran⟩)
  preparePoll owned :=
    ((callbacks.preparePoll owned.state).1,
      ⟨(callbacks.preparePoll owned.state).2, owned.ran⟩)
  onReady revents owned := ⟨callbacks.onReady revents owned.state, owned.ran⟩

/-- An event thread and the calls made of it. -/
structure OpQueue (State : Type) where
  thread : EventThread Nat State
  posts : Nat → PostCall := fun _ => .called
  stops : Nat → StopCall := fun _ => .called
  /-- The call of `Post` that the loop's own thread is in. -/
  onLoop : Option Nat := none
  pushed : List Nat := []

inductive QueueAction
  | post (op : Nat)
  /-- A callback on the loop's thread calls `Post`. -/
  | postOnLoop (op : Nat)
  | stop (caller : Nat)
  | loop (answer : PollAnswer)

namespace OpQueue

variable {State : Type}

def setPost (op : Nat) (call : PostCall) (q : OpQueue State) : OpQueue State :=
  { q with posts := Function.update q.posts op call }

def setStop (caller : Nat) (call : StopCall) (q : OpQueue State) : OpQueue State :=
  { q with stops := Function.update q.stops caller call }

def stepPost (op : Nat) (q : OpQueue State) : OpQueue State :=
  match q.posts op with
  | .called =>
      let posted := q.thread.post op
      if posted.1 = false then q.setPost op (.returned false)
      else
        { q with thread := posted.2, pushed := q.pushed ++ [op] }.setPost op .notify
  | .notify =>
      { q with
        thread := q.thread.notify
        onLoop := if q.onLoop = some op then none else q.onLoop }.setPost op
          (.returned true)
  | .returned _ => q

/-- A callback calls `Post`; the loop waits for it. -/
def postOnLoop (op : Nat) (q : OpQueue State) : OpQueue State :=
  if q.thread.loop.inCallback ∧ q.onLoop = none ∧ q.posts op = .called then
    let q := q.stepPost op
    { q with onLoop := if q.posts op = .notify then some op else none }
  else q

def stepStop (caller : Nat) (q : OpQueue State) : OpQueue State :=
  match q.stops caller with
  | .called =>
      let stopped := q.thread.requestStop
      { q with thread := stopped.2 }.setStop caller (.notify stopped.1)
  | .notify mustJoin =>
      { q with thread := q.thread.notify }.setStop caller
        (if mustJoin then .join else .returned)
  | .join =>
      match q.thread.loop with
      | .exited => q.setStop caller .returned
      | _ => q
  | .returned => q

def stepLoop (callbacks : EventThread.Callbacks Nat State) (answer : PollAnswer)
    (q : OpQueue State) : OpQueue State :=
  if q.onLoop.isSome then q else { q with thread := q.thread.step callbacks answer }

def step (callbacks : EventThread.Callbacks Nat State) (q : OpQueue State) :
    QueueAction → OpQueue State
  | .post op => q.stepPost op
  | .postOnLoop op => q.postOnLoop op
  | .stop caller => q.stepStop caller
  | .loop answer => q.stepLoop callbacks answer

/-- `poll` fails with `EINTR` only. -/
def Admits (_ : OpQueue State) (action : QueueAction) : Prop :=
  action ≠ .loop .failed

/-- The thread has just started, and nobody has called anything. -/
def Started (q : OpQueue State) : Prop :=
  ∃ owned, q = { thread := { started := true, owned := owned } }

abbrev Reachable (callbacks : EventThread.Callbacks Nat State) :
    OpQueue State → Prop :=
  Runs.Reach (step callbacks) Admits Started

/-- What some interleaving reaches while a log is kept that is empty at first. -/
abbrev ReachableLogged (callbacks : EventThread.Callbacks Nat State) :
    OpQueue (Logged State) → Prop :=
  Runs.Reach (step callbacks.logging) Admits fun q => q.Started ∧ q.thread.owned.ran = []

/-- The operations that were run, in order. -/
def ran (q : OpQueue (Logged State)) : List Nat :=
  q.thread.owned.ran

/-- The thread without its log. -/
def forget (q : OpQueue (Logged State)) : OpQueue State where
  thread := { q.thread with owned := q.thread.owned.state }
  posts := q.posts
  stops := q.stops
  onLoop := q.onLoop
  pushed := q.pushed

/-! ## The invariant -/

/-- The eventfd is ready, or a thread is about to make it so. -/
def Announced (q : OpQueue State) : Prop :=
  0 < q.thread.wakeup.count ∨ (∃ op, q.posts op = .notify) ∨
    ∃ caller mustJoin, q.stops caller = .notify mustJoin

variable {callbacks : EventThread.Callbacks Nat State} {q : OpQueue (Logged State)}

/-- What was run, what is to run and what is queued is what was pushed.  A loop that
has looked at its queue and goes to sleep is woken, and one that has seen the stop
flag finds no more work. -/
structure Sound (q : OpQueue (Logged State)) : Prop where
  order : q.ran ++ q.thread.waiting = q.pushed
  nodup : q.pushed.Nodup
  accepted : ∀ op, op ∈ q.pushed ↔ q.posts op = .notify ∨ q.posts op = .returned true
  announced : q.thread.loop.Swept →
    q.thread.ops ≠ [] ∨ q.thread.stopRequested = true → q.Announced
  last : q.thread.loop.Last → q.thread.stopRequested = true ∧ q.thread.ops = []

theorem sound_of_started (started : q.Started) (log : q.thread.owned.ran = []) :
    q.Sound := by
  obtain ⟨owned, rfl⟩ := started
  exact
    { order := by
        rw [OpQueue.ran, log]
        rfl
      nodup := List.nodup_nil
      accepted := fun op => by simp
      announced := fun swept => swept.elim
      last := fun seen => seen.elim }

/-- Where the loop's own thread is does not matter to the invariant. -/
theorem Sound.setOnLoop (sound : q.Sound) (onLoop : Option Nat) :
    { q with onLoop := onLoop }.Sound :=
  { sound with }

theorem Sound.refuse (sound : q.Sound) {op : Nat} (called : q.posts op = .called) :
    (q.setPost op (.returned false)).Sound := by
  refine { sound with accepted := ?_, announced := ?_ }
  · refine (Function.forall_update_iff q.posts fun other call =>
      (other ∈ q.pushed ↔ call = .notify ∨ call = .returned true)).mpr
      ⟨?_, fun other _ => sound.accepted other⟩
    rw [sound.accepted op, called]
    simp
  · intro swept work
    rcases sound.announced swept work with counted | ⟨other, notifies⟩ | stopper
    · exact .inl counted
    · refine .inr (.inl ⟨other, (Function.update_of_ne ?_ _ _).trans notifies⟩)
      rintro rfl
      rw [called] at notifies
      cases notifies
    · exact .inr (.inr stopper)

theorem Sound.push (sound : q.Sound) {op : Nat} (called : q.posts op = .called)
    (run : q.thread.stopRequested = false) :
    ({ q with
      thread := { q.thread with ops := q.thread.ops ++ [op] }
      pushed := q.pushed ++ [op] }.setPost op .notify).Sound where
  order := by
    change q.ran ++ (q.thread.loop.remaining ++ (q.thread.ops ++ [op])) = q.pushed ++ [op]
    rw [← sound.order, EventThread.waiting]
    simp only [List.append_assoc]
  nodup := by
    refine List.nodup_append.mpr ⟨sound.nodup, List.nodup_singleton op, ?_⟩
    rintro old member new isNew rfl
    rw [List.mem_singleton.mp isNew, sound.accepted, called] at member
    simp at member
  accepted := by
    refine (Function.forall_update_iff q.posts fun other call =>
      (other ∈ q.pushed ++ [op] ↔ call = .notify ∨ call = .returned true)).mpr
      ⟨by simp, fun other apart => ?_⟩
    rw [List.mem_append, List.mem_singleton, or_iff_left apart]
    exact sound.accepted other
  announced _ _ := .inr (.inl ⟨op, Function.update_self ..⟩)
  last seen := by
    have stopped := (sound.last seen).1
    rw [run] at stopped
    cases stopped

theorem Sound.notifyPost (sound : q.Sound) {op : Nat} (pushed : q.posts op = .notify) :
    ({ q with thread := q.thread.notify }.setPost op (.returned true)).Sound where
  order := sound.order
  nodup := sound.nodup
  accepted := by
    refine (Function.forall_update_iff q.posts fun other call =>
      (other ∈ q.pushed ↔ call = .notify ∨ call = .returned true)).mpr
      ⟨?_, fun other _ => sound.accepted other⟩
    rw [sound.accepted op, pushed]
    simp
  announced _ _ := .inl (Wakeup.notify_pos _)
  last := sound.last

theorem Sound.stepPost (sound : q.Sound) (op : Nat) : (q.stepPost op).Sound := by
  unfold OpQueue.stepPost
  split
  · rename_i called
    cases stop : q.thread.stopRequested with
    | true =>
        rw [EventThread.post_of_stopped stop]
        exact sound.refuse called
    | false =>
        rw [EventThread.post_of_running stop]
        exact sound.push called stop
  · rename_i pushed
    exact (sound.notifyPost pushed).setOnLoop _
  · exact sound

theorem Sound.postOnLoop (sound : q.Sound) (op : Nat) : (q.postOnLoop op).Sound := by
  unfold OpQueue.postOnLoop
  split
  · exact (sound.stepPost op).setOnLoop _
  · exact sound

theorem Sound.stepStop (sound : q.Sound) (caller : Nat) :
    (q.stepStop caller).Sound := by
  unfold OpQueue.stepStop
  split
  · obtain ⟨joined, requested⟩ := q.thread.requestStop_eq
    simp only
    rw [requested]
    exact
      { sound with
        announced := fun _ _ => .inr (.inr ⟨caller, _, Function.update_self ..⟩)
        last := fun seen => ⟨rfl, (sound.last seen).2⟩ }
  · exact { sound with announced := fun _ _ => .inl (Wakeup.notify_pos _) }
  · split
    · rename_i exited
      have unswept : ¬ (q.setStop caller .returned).thread.loop.Swept := by
        change ¬ q.thread.loop.Swept
        rw [exited]
        exact not_false
      exact { sound with announced := fun swept => absurd swept unswept }
    · exact sound
  · exact sound

/-! ## The loop -/

/-- Only `runOp` adds to the log. -/
theorem ran_of_attends {owned owned' : Logged State}
    (attends : callbacks.logging.Attends owned owned') : owned'.ran = owned.ran := by
  cases attends <;> rfl

/-- A step of the loop moves operations from the queue to the log and loses none. -/
theorem ran_append_waiting {answer : PollAnswer}
    {thread thread' : EventThread Nat (Logged State)}
    (moved : EventThread.QueueStep callbacks.logging answer thread thread') :
    thread'.owned.ran ++ thread'.waiting = thread.owned.ran ++ thread.waiting := by
  cases moved with
  | take here => simp [EventThread.waiting, EventThread.swapOps, here, Loop.remaining]
  | run here =>
      simp [EventThread.waiting, EventThread.Callbacks.logging, here, Loop.remaining]
  | between between => rw [ran_of_attends between.attends, between.waiting_eq]

theorem Sound.stepLoop (sound : q.Sound) {answer : PollAnswer}
    (noError : answer ≠ .failed) : (q.stepLoop callbacks.logging answer).Sound := by
  unfold OpQueue.stepLoop
  split
  · exact sound
  · have moved := EventThread.queueStep callbacks.logging answer q.thread
    have stop := (q.thread.step_flags callbacks.logging answer).2.2
    refine { sound with order := ?_, announced := ?_, last := ?_ }
    · exact (ran_append_waiting moved).trans sound.order
    · intro swept work
      rcases moved.swept swept with ⟨empty, going⟩ | ⟨before, ops, wakeup⟩
      · rcases work with queued | stopped
        · exact absurd empty queued
        · exact absurd (going.symm.trans (stop.symm.trans stopped)) Bool.false_ne_true
      · rw [ops, stop] at work
        have announced := sound.announced before work
        rw [Announced, ← wakeup] at announced
        exact announced
    · intro last
      rcases moved.last noError last with ⟨empty, stopped⟩ | ⟨before, ops⟩
      · exact ⟨stop.trans stopped, empty⟩
      · obtain ⟨stopped, empty⟩ := sound.last before
        exact ⟨stop.trans stopped, ops.trans empty⟩

theorem ReachableLogged.sound (reachable : ReachableLogged callbacks q) : q.Sound := by
  refine reachable.invariant Sound (fun _ start => sound_of_started start.1 start.2) ?_
  intro q action sound admitted
  cases action with
  | post op => exact sound.stepPost op
  | postOnLoop op => exact sound.postOnLoop op
  | stop caller => exact sound.stepStop caller
  | loop answer => exact sound.stepLoop fun failed => admitted (by rw [failed])

/-! ## The log changes nothing -/

theorem forget_stepPost (op : Nat) : (q.stepPost op).forget = q.forget.stepPost op := by
  have same : q.forget.posts op = q.posts op := rfl
  simp only [OpQueue.stepPost, same]
  cases q.posts op with
  | called =>
      cases stop : q.thread.stopRequested with
      | true =>
          have stopped : q.forget.thread.stopRequested = true := stop
          simp only [EventThread.post_of_stopped stop, EventThread.post_of_stopped stopped]
          rfl
      | false =>
          have going : q.forget.thread.stopRequested = false := stop
          simp only [EventThread.post_of_running stop, EventThread.post_of_running going]
          rfl
  | notify | returned => rfl

theorem forget_postOnLoop (op : Nat) : (q.postOnLoop op).forget = q.forget.postOnLoop op := by
  by_cases free : q.thread.loop.inCallback ∧ q.onLoop = none ∧ q.posts op = .called
  · have freeLogged : q.forget.thread.loop.inCallback ∧ q.forget.onLoop = none ∧
        q.forget.posts op = .called := free
    simp only [OpQueue.postOnLoop, if_pos free, if_pos freeLogged, ← forget_stepPost]
    rfl
  · have busy : ¬ (q.forget.thread.loop.inCallback ∧ q.forget.onLoop = none ∧
        q.forget.posts op = .called) := free
    simp only [OpQueue.postOnLoop, if_neg free, if_neg busy]

theorem forget_stepStop (caller : Nat) :
    (q.stepStop caller).forget = q.forget.stepStop caller := by
  obtain ⟨⟨ops, stopRequested, started, joined, wakeup, loop, owned⟩, posts, stops, _, _⟩ := q
  simp only [OpQueue.stepStop, forget]
  cases stops caller with
  | called => cases started <;> cases joined <;> rfl
  | join => cases loop <;> rfl
  | notify | returned => rfl

theorem forget_stepLoop (answer : PollAnswer) :
    (q.stepLoop callbacks.logging answer).forget = q.forget.stepLoop callbacks answer := by
  obtain ⟨⟨ops, stopRequested, started, joined, wakeup, loop, owned⟩, posts, stops,
    onLoop, pushed⟩ := q
  cases onLoop with
  | some op => rfl
  | none =>
      cases loop with
      | running ops stopping =>
          cases ops with
          | cons op ops => rfl
          | nil => cases stopping <;> rfl
      | poll events timeoutMs => cases answer <;> rfl
      | dispatch watching socket => cases watching <;> cases socket <;> rfl
      | runPendingOps | runDue | preparePoll | drain | exited => rfl

theorem forget_step (action : QueueAction) :
    (q.step callbacks.logging action).forget = q.forget.step callbacks action := by
  cases action with
  | post op => exact forget_stepPost op
  | postOnLoop op => exact forget_postOnLoop op
  | stop caller => exact forget_stepStop caller
  | loop answer => exact forget_stepLoop answer

/-- Without its log a logged run is a run of the thread. -/
theorem ReachableLogged.forget (reachable : ReachableLogged callbacks q) :
    Reachable callbacks q.forget := by
  refine reachable.invariant (fun q => Reachable callbacks q.forget) ?_ ?_
  · rintro _ ⟨⟨owned, rfl⟩, -⟩
    exact .start ⟨owned.state, rfl⟩
  · intro q action reached admitted
    rw [forget_step]
    exact .next reached admitted

/-- Every run of the thread can be logged. -/
theorem exists_logged {q : OpQueue State} (reachable : Reachable callbacks q) :
    ∃ logged, ReachableLogged callbacks logged ∧ logged.forget = q := by
  refine reachable.invariant
    (fun q => ∃ logged, ReachableLogged callbacks logged ∧ logged.forget = q) ?_ ?_
  · rintro _ ⟨owned, rfl⟩
    exact ⟨{ thread := { started := true, owned := { state := owned } } },
      .start ⟨⟨_, rfl⟩, rfl⟩, rfl⟩
  · rintro _ action ⟨logged, reached, rfl⟩ admitted
    exact ⟨logged.step callbacks.logging action, .next reached admitted,
      forget_step action⟩

/-! ## What the queue does -/

/-- The runs of the thread are the logged runs without their logs, so that what has run
is what the callback `runOp` was applied to.  In every interleaving operations run in the
order of their pushes, each at most once, and a refused one never; a loop in `poll` with
something to do finds the eventfd ready, or a thread is about to make it so; and when the
loop has returned, all accepted operations have run. -/
theorem queue_delivers_once_in_order (callbacks : EventThread.Callbacks Nat State) :
    (∀ q, Reachable callbacks q ↔
      ∃ logged, ReachableLogged callbacks logged ∧ logged.forget = q) ∧
    ∀ q, ReachableLogged callbacks q →
      q.ran.Nodup ∧ q.ran <+: q.pushed ∧
      (∀ op, q.posts op = .returned true → op ∈ q.pushed) ∧
      (∀ op, q.posts op = .returned false → op ∉ q.ran) ∧
      (∀ events timeoutMs, q.thread.loop = .poll events timeoutMs →
        q.thread.ops ≠ [] ∨ q.thread.stopRequested = true → q.Announced) ∧
      (q.thread.loop = .exited →
        q.thread.stopRequested = true ∧ q.ran = q.pushed) := by
  refine ⟨fun q => ⟨exists_logged, ?_⟩, fun q reachable => ?_⟩
  · rintro ⟨logged, reached, rfl⟩
    exact reached.forget
  · have sound := reachable.sound
    have inOrder : q.ran <+: q.pushed := ⟨q.thread.waiting, sound.order⟩
    refine ⟨inOrder.sublist.nodup sound.nodup, inOrder, ?_, ?_, ?_, ?_⟩
    · exact fun op accepted => (sound.accepted op).mpr (.inr accepted)
    · intro op refused ran
      have pushed := (sound.accepted op).mp (inOrder.subset ran)
      rw [refused] at pushed
      simp at pushed
    · intro events timeoutMs polling
      apply sound.announced
      rw [polling]
      trivial
    · intro exited
      obtain ⟨stopped, empty⟩ := sound.last (by rw [exited]; trivial)
      have order := sound.order
      rw [EventThread.waiting, exited, empty] at order
      exact ⟨stopped, (List.append_nil _).symm.trans order⟩

/-- Callbacks of which the operations sum up their numbers. -/
def summing : EventThread.Callbacks Nat Nat where
  runOp op owned := owned + op
  readClock owned := (0, owned)
  runDueRound _ owned := (false, owned)
  preparePoll owned := ((none, -1), owned)
  onReady _ owned := owned

/-- Operation 3 posts operation 1 while it runs, `Stop` comes between that and
the notification, and operation 2 is refused. -/
def sampleInterleaving : List QueueAction :=
  [.post 3, .post 3, .loop .interrupted, .postOnLoop 1, .stop 0, .post 1, .post 2,
    .loop .interrupted, .stop 0, .loop .interrupted, .loop .interrupted,
    .loop .interrupted, .loop (.returned 1 0), .loop .interrupted,
    .loop .interrupted, .loop .interrupted, .loop .interrupted, .loop .interrupted]

/-- Both accepted operations have run when the loop has returned, the state and the
log say. -/
theorem accepted_operations_ran :
    let q := sampleInterleaving.foldl (step summing.logging)
      { thread := { started := true, owned := { state := 0 } } }
    q.posts 1 = .returned true ∧ q.posts 2 = .returned false ∧ q.pushed = [3, 1] ∧
      q.thread.owned.state = 4 ∧ q.ran = q.pushed := by
  intro q
  have reachable : ReachableLogged summing q := by
    refine Runs.Reach.foldl ?_ (.start ⟨⟨⟨0, []⟩, rfl⟩, rfl⟩)
    simp [sampleInterleaving, Admits]
  obtain ⟨_, _, _, _, _, exited⟩ := (queue_delivers_once_in_order summing).2 q reachable
  exact ⟨rfl, rfl, rfl, rfl, (exited rfl).2⟩

end OpQueue

end Egrpc
