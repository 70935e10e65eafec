import Egrpc.TimerTable

/-!
# How long `poll` may sleep

The event loop sleeps in `poll` for `PollTimeoutMs(now)` milliseconds, while
deadlines are counted in nanoseconds.  The timeout is rounded up, so `poll`
does not wake before the earliest deadline, and by at most a millisecond, so it
does not sleep past it.  Cancelled entries may be anywhere in the heap; the
earliest deadline meant is that of the timers in the table.
-/

namespace Egrpc

variable {Callback : Type}

namespace TimerTable

/-- The earliest deadline of the table. -/
def Earliest (table : TimerTable Callback) (deadline : Int) : Prop :=
  IsLeast { deadline | ∃ id, table.Due id deadline } deadline

theorem Earliest.pending_ne_empty {table : TimerTable Callback} {deadline : Int}
    (earliest : table.Earliest deadline) : table.pending ≠ ∅ := by
  intro empty
  obtain ⟨id, callback, found⟩ := earliest.1
  rw [empty, Finmap.lookup_empty] at found
  cases found

/-- Nothing is due in the table that the end of `RunDue` leaves. -/
theorem Permitted.ahead_of_ranDue {table : TimerTable Callback}
    {events : List (TimerEvent Callback)} {now : Int} {count : Nat}
    (permitted : table.Permitted (events ++ [.ranDue now count])) {id : Nat}
    {deadline : Int} (due : ((events ++ [TimerEvent.ranDue now count]).foldl
      record table).Due id deadline) : now < deadline := by
  induction events generalizing table with
  | nil => exact permitted.1 id deadline due
  | cons event events ih => exact ih permitted.2 due

end TimerTable

/-! ## The rounded timeout -/

/-- A wait in milliseconds that suits a deadline ahead: it ends at the deadline
or up to a millisecond after it, or it is the longest wait `poll` takes and the
deadline is farther away than the next shorter one. -/
def SuitsDeadline (now deadline timeout : Int) : Prop :=
  timeout = TimerHeap.INT_MAX ∧
      (TimerHeap.INT_MAX - 1) * 1000000 < deadline - now ∨
    deadline ≤ now + timeout * 1000000 ∧
      now + timeout * 1000000 ≤ deadline + 1000000

theorem suitsDeadline_rounded {now deadline : Int} (ahead : now < deadline) :
    1 ≤ min ((deadline - now) / 1000000 + 1) TimerHeap.INT_MAX ∧
      SuitsDeadline now deadline
        (min ((deadline - now) / 1000000 + 1) TimerHeap.INT_MAX) := by
  unfold SuitsDeadline TimerHeap.INT_MAX
  by_cases far : (deadline - now) / 1000000 + 1 ≤ 2147483647
  · rw [min_eq_left far]
    omega
  · rw [min_eq_right (by omega)]
    omega

namespace TimerHeap.Refines

variable {algorithms : Algorithms} {timers : TimerHeap Callback}
  {table : TimerTable Callback}

/-- The three answers, each with what the table holds then. -/
theorem pollTimeoutMs_cases (refines : Refines algorithms timers table)
    (now : Int) :
    (timers.pollTimeoutMs algorithms now).1 = -1 ∧ table.pending = ∅ ∨
    ∃ deadline, table.Earliest deadline ∧
      (deadline ≤ now ∧ (timers.pollTimeoutMs algorithms now).1 = 0 ∨
        now < deadline ∧ 1 ≤ (timers.pollTimeoutMs algorithms now).1 ∧
          SuitsDeadline now deadline (timers.pollTimeoutMs algorithms now).1) := by
  have permits := refines.nextDeadline.1
  unfold TimerHeap.pollTimeoutMs
  cases next : (timers.nextDeadline algorithms).1 with
  | none =>
      rw [next] at permits
      simp only [next]
      exact .inl ⟨trivial, permits⟩
  | some deadline =>
      rw [next] at permits
      simp only [next]
      refine .inr ⟨deadline, permits, ?_⟩
      split_ifs with due
      · exact .inl ⟨due, rfl⟩
      · exact .inr ⟨not_le.mp due, suitsDeadline_rounded (not_le.mp due)⟩

theorem pollTimeoutMs_eq_neg_one (refines : Refines algorithms timers table)
    (now : Int) :
    (timers.pollTimeoutMs algorithms now).1 = -1 ↔ table.pending = ∅ := by
  rcases refines.pollTimeoutMs_cases now with
    ⟨answer, empty⟩ | ⟨deadline, earliest, cases⟩
  · exact iff_of_true answer empty
  · refine iff_of_false ?_ earliest.pending_ne_empty
    rcases cases with ⟨_, answer⟩ | ⟨_, positive, _⟩
    · rw [answer]
      decide
    · omega

theorem pollTimeoutMs_eq_zero (refines : Refines algorithms timers table)
    (now : Int) :
    (timers.pollTimeoutMs algorithms now).1 = 0 ↔
      ∃ deadline, table.Earliest deadline ∧ deadline ≤ now := by
  rcases refines.pollTimeoutMs_cases now with
    ⟨answer, empty⟩ | ⟨deadline, earliest, ⟨due, answer⟩ | ⟨ahead, positive, _⟩⟩
  · refine iff_of_false (by rw [answer]; decide) ?_
    rintro ⟨deadline, earliest, _⟩
    exact earliest.pending_ne_empty empty
  · exact iff_of_true answer ⟨deadline, earliest, due⟩
  · refine iff_of_false (by omega) ?_
    rintro ⟨other, otherEarliest, due⟩
    have same := earliest.unique otherEarliest
    omega

end TimerHeap.Refines

/-- Whatever was added, cancelled, asked and run before, with cancelled entries anywhere
in the heap and for any heap algorithms, `PollTimeoutMs(now)` is `-1` exactly when no
timer is pending and `0` exactly when the earliest deadline has come. Any other answer is
positive and suits the earliest deadline. When the last thing seen is that `RunDue(now)`
returned, the answer for that `now` is not `0`. -/
theorem poll_timeout_suits_earliest_deadline (algorithms : TimerHeap.Algorithms)
    (actions : List (TimerAction Callback)) (now : Int) :
    let ran := ({} : TimerProcess Callback).run algorithms actions
    let table := ran.1.foldl TimerTable.record {}
    let timeout := (ran.2.timers.pollTimeoutMs algorithms now).1
    (timeout = -1 ↔ table.pending = ∅) ∧
    (timeout = 0 ↔ ∃ deadline, table.Earliest deadline ∧ deadline ≤ now) ∧
    (timeout ≠ -1 → timeout ≠ 0 → 1 ≤ timeout ∧
      ∃ deadline, table.Earliest deadline ∧ now < deadline ∧
        SuitsDeadline now deadline timeout) ∧
    (∀ earlier count, ran.1 = earlier ++ [.ranDue now count] → timeout ≠ 0) := by
  intro ran table timeout
  have start : TimerHeap.Refines algorithms
      ({} : TimerProcess Callback).timers {} := TimerHeap.refines_empty algorithms
  obtain ⟨permitted, refined⟩ := TimerProcess.run_refines actions start
  have zeroIff := refined.pollTimeoutMs_eq_zero now
  refine ⟨refined.pollTimeoutMs_eq_neg_one now, zeroIff, ?_, ?_⟩
  · intro some_pending not_due
    rcases refined.pollTimeoutMs_cases now with
      ⟨answer, _⟩ | ⟨deadline, earliest, ⟨_, answer⟩ | ⟨ahead, positive, suits⟩⟩
    · exact (some_pending answer).elim
    · exact (not_due answer).elim
    · exact ⟨positive, deadline, earliest, ahead, suits⟩
  · intro earlier count returned zero
    obtain ⟨deadline, ⟨⟨id, due⟩, _⟩, come⟩ := zeroIff.mp zero
    change ({} : TimerTable Callback).Permitted ran.1 at permitted
    change (ran.1.foldl TimerTable.record {}).Due id deadline at due
    rw [returned] at permitted due
    exact (permitted.ahead_of_ranDue due).not_ge come

/-- Timers at 5 and 9 ns and at 2.5 ms, the second cancelled: `RunDue(7)` fires
the first and leaves the cancelled entry, and `poll` sleeps for three
milliseconds. -/
example :
    let actions : List (TimerAction Unit) :=
      [.add 5 (), .add 9 (), .add 2500000 (), .cancel 2, .runDue 7, .round,
        .callbackReturns, .round]
    let ran := ({} : TimerProcess Unit).run TimerHeap.sortedAlgorithms actions
    ran.1.drop 5 = [.ranDue 7 1] ∧
      (ran.2.timers.pollTimeoutMs TimerHeap.sortedAlgorithms 7).1 = 3 :=
  ⟨rfl, by decide⟩

end Egrpc
