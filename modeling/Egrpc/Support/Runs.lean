import Mathlib.Logic.Basic

/-!
# Runs of a labelled transition function

A component that handles one event at a time is a function from a state and an
event to the next state.  What an environment may do is a relation saying
which events it can deliver in which states.  This file defines the states such
a component reaches and packages the induction over its runs.
-/

namespace Runs

variable {State Event : Type*}

/-- The states reached from a start state by events that are admitted in the
state in which each of them is taken. -/
inductive Reach (step : State → Event → State)
    (admits : State → Event → Prop) (start : State → Prop) : State → Prop
  | start {state : State} (isStart : start state) :
      Reach step admits start state
  | next {state : State} {event : Event}
      (reached : Reach step admits start state)
      (admitted : admits state event) :
      Reach step admits start (step state event)

variable {step : State → Event → State}
  {admits : State → Event → Prop} {start : State → Prop}

/-- The invariant rule: what holds at the start and is kept by every admitted
event holds in every reached state. -/
theorem Reach.invariant (good : State → Prop)
    (initial : ∀ state, start state → good state)
    (kept : ∀ state event, good state → admits state event →
      good (step state event))
    {state : State} (reached : Reach step admits start state) :
    good state := by
  induction reached with
  | start isStart => exact initial _ isStart
  | next _ admitted ih => exact kept _ _ ih admitted

theorem Reach.trans {middle state : State} (first : Reach step admits start middle)
    (second : Reach step admits (· = middle) state) : Reach step admits start state := by
  induction second with
  | start isStart => exact isStart ▸ first
  | next _ admitted ih => exact .next ih admitted

/-- Events that are admitted in every state may follow one another. -/
theorem Reach.foldl {events : List Event} {state : State}
    (admitted : ∀ event ∈ events, ∀ state, admits state event)
    (reached : Reach step admits start state) :
    Reach step admits start (events.foldl step state) := by
  induction events generalizing state with
  | nil => exact reached
  | cons event events ih =>
      exact ih (fun later member => admitted later (List.mem_cons_of_mem _ member))
        (reached.next (admitted event List.mem_cons_self state))

/-! ## Runs with their events -/

/-- Every event of a run is admitted in the state in which it is taken. -/
def Admitted (step : State → Event → State) (admits : State → Event → Prop) :
    State → List Event → Prop
  | _, [] => True
  | state, event :: events =>
      admits state event ∧ Admitted step admits (step state event) events

/-- The invariant rule for what may depend on the events so far. -/
theorem Admitted.invariant (good : List Event → State → Prop) {state : State}
    (initial : good [] state)
    (kept : ∀ past state event, good past state → admits state event →
      good (past ++ [event]) (step state event))
    {events : List Event} (admitted : Admitted step admits state events) :
    good events (events.foldl step state) := by
  have fromPast : ∀ events past state, good past state →
      Admitted step admits state events →
      good (past ++ events) (events.foldl step state) := by
    intro events
    induction events with
    | nil =>
        intro past state holds _
        rw [List.append_nil]
        exact holds
    | cons event events ih =>
        intro past state holds admitted
        rw [List.append_cons]
        exact ih _ _ (kept past state event holds admitted.1) admitted.2
  exact fromPast events [] state initial admitted

end Runs
