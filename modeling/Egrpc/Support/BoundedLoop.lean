import Mathlib.Logic.Basic

/-!
# Loops that end because something runs out

A loop body looks at a state and either goes round again or leaves.  A loop
whose every further round uses up some resource ends after as many rounds as
there is resource left.  The loop below runs on that count, so it computes; its
unfolding equation does not mention the count, and its invariant rule is the
one for an ordinary `while`.
-/

/-- The outcome of one round. -/
inductive BoundedLoop.Round (State : Type*)
  | again (state : State)
  | leave (state : State)

/-- One condition on the state for going round again, another for leaving. -/
def BoundedLoop.Round.Meets {State : Type*} (again leave : State → Prop) :
    BoundedLoop.Round State → Prop
  | .again state => again state
  | .leave state => leave state

/-- A loop together with the resource that each further round uses up. -/
structure BoundedLoop (State : Type*) where
  body : State → BoundedLoop.Round State
  left : State → Nat
  shrinks : ∀ state state', body state = .again state' → left state' < left state

namespace BoundedLoop

variable {State : Type*}

/-- At most the given number of rounds. -/
def runUpTo (loop : BoundedLoop State) : Nat → State → State
  | 0, state => state
  | rounds + 1, state =>
      match loop.body state with
      | .again state' => loop.runUpTo rounds state'
      | .leave state' => state'

def run (loop : BoundedLoop State) (state : State) : State :=
  loop.runUpTo (loop.left state + 1) state

/-- Rounds beyond what the resource allows make no difference. -/
theorem runUpTo_congr (loop : BoundedLoop State) {rounds rounds' : Nat}
    {state : State} (enough : loop.left state < rounds)
    (enough' : loop.left state < rounds') :
    loop.runUpTo rounds state = loop.runUpTo rounds' state := by
  induction rounds generalizing rounds' state with
  | zero => exact absurd enough (Nat.not_lt_zero _)
  | succ rounds ih =>
      cases rounds' with
      | zero => exact absurd enough' (Nat.not_lt_zero _)
      | succ rounds' =>
          simp only [runUpTo]
          cases went : loop.body state with
          | leave state' => rfl
          | again state' =>
              have fewer := loop.shrinks state state' went
              exact ih (by omega) (by omega)

theorem run_eq (loop : BoundedLoop State) (state : State) :
    loop.run state =
      match loop.body state with
      | .again state' => loop.run state'
      | .leave state' => state' := by
  rw [run, runUpTo]
  cases went : loop.body state with
  | leave state' => rfl
  | again state' =>
      have fewer := loop.shrinks state state' went
      exact loop.runUpTo_congr fewer (Nat.lt_succ_self _)

theorem run_of_leave (loop : BoundedLoop State) {state state' : State}
    (went : loop.body state = .leave state') : loop.run state = state' := by
  rw [run_eq, went]

theorem run_of_again (loop : BoundedLoop State) {state state' : State}
    (went : loop.body state = .again state') : loop.run state = loop.run state' := by
  rw [run_eq, went]

/-- The invariant rule: what every further round keeps and every leaving round
turns into the postcondition holds when the loop has ended. -/
theorem run_invariant (loop : BoundedLoop State) {good after : State → Prop}
    (round : ∀ state, good state → (loop.body state).Meets good after)
    {state : State} (holds : good state) :
    after (loop.run state) := by
  -- Induction on a bound of the rounds that remain.
  have rounds : ∀ bound state, loop.left state < bound → good state →
      after (loop.run state) := by
    intro bound
    induction bound with
    | zero => intro state few; exact absurd few (Nat.not_lt_zero _)
    | succ bound ih =>
        intro state few holds
        have met := round state holds
        rw [run_eq]
        cases went : loop.body state with
        | leave state' =>
            rw [went] at met
            exact met
        | again state' =>
            have fewer := loop.shrinks state state' went
            rw [went] at met
            exact ih state' (by omega) met
  exact rounds (loop.left state + 1) state (Nat.lt_succ_self _) holds

end BoundedLoop
