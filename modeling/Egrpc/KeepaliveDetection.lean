import Egrpc.KeepaliveRuns

/-!
# How soon a silent peer is found dead

The channel checks exactly at the deadline the session gives.  After the last bytes
have arrived, such checks queue one PING and then answer `dead` a `keepalive_timeout`
later.  The PING goes out at the later of two times: a `keepalive_time` after the
bytes, and the deadline in force when they had been read.  That deadline is still
the one of an older PING if the bytes did not acknowledge it.
-/

namespace Egrpc

namespace KeepaliveClock

/-- When punctual checks queue the next PING, if nothing more arrives. -/
def nextPing (clock : KeepaliveClock) : Int :=
  max clock.deadline (clock.lastRead + clock.time)

/-- An outstanding PING puts that off. -/
def HeldUp (clock : KeepaliveClock) : Prop :=
  clock.pingOutstanding = true ∧
    clock.lastRead + clock.time < clock.pingSent + clock.timeout

theorem nextPing_le_iff (clock : KeepaliveClock) :
    clock.nextPing ≤ clock.lastRead + clock.time ↔ ¬ clock.HeldUp := by
  unfold nextPing HeldUp deadline
  split_ifs with outstanding
  · simp [outstanding]
  · simp [outstanding]

theorem pinged_unanswered (clock : KeepaliveClock) (positive : 0 < clock.time) :
    (clock.pinged clock.nextPing).Unanswered := by
  have idle : clock.lastRead + clock.time ≤ clock.nextPing := le_max_right ..
  refine ⟨rfl, ?_⟩
  change clock.lastRead < clock.nextPing
  omega

theorem settle_of_not_unanswered {clock : KeepaliveClock} (answered : ¬ clock.Unanswered) :
    clock.settle = clock.acked := by
  unfold settle
  split_ifs with satisfied
  · rfl
  · have idle : clock.pingOutstanding = false := by
      by_contra outstanding
      rw [Bool.not_eq_false] at outstanding
      exact answered ⟨outstanding, not_le.mp fun read => satisfied ⟨outstanding, read⟩⟩
    rw [acked, ← idle]

end KeepaliveClock

/-- The operation acknowledges a PING although no bytes arrive. -/
def KeepaliveOp.acksWithoutBytes {Hook : Type} (env : NgEnv) : KeepaliveOp Hook → Bool
  | .receiveBytes _ data =>
      data.isEmpty && (takeAnswer {} env.memRecvs).1.callbacks.any NgCallback.isPingAck
  | .callback event => event.isPingAck
  | .submitUnaryRequest _ _ _ | .nextKeepaliveDeadline _ | .checkKeepalive _ => false

namespace KeepaliveRun

variable {Hook : Type}

/-- Keepalive is enabled and the owner checks exactly at the deadline the session
gives; PINGs can be submitted, and acknowledgements come in bytes. -/
structure Punctual (run : KeepaliveRun Hook) (op : KeepaliveOp Hook) : Prop where
  timely : run.Timely op
  due : ∃ deadline, run.io.session.nextKeepaliveDeadline = some deadline ∧
    ∀ now, op.time? = some now → now ≤ deadline
  check : ∀ now, op = .checkKeepalive now →
    run.io.session.nextKeepaliveDeadline = some now ∧
      (takeAnswer 0 run.io.env.submitPings).1 = 0
  acks : op.acksWithoutBytes run.io.env = false

/-- How far the checks since the last arrival have got. -/
inductive Phase (run : KeepaliveRun Hook) : Prop
  /-- There was none. -/
  | waiting (clockEq : run.clock = run.arrivalClock) (checksEq : run.checks = [])
  /-- One of them found an older PING made up for, too early for a new one. -/
  | settled (clockEq : run.clock = run.arrivalClock.acked)
      (early : run.arrivalClock.deadline < run.lastArrival + run.arrivalClock.time)
      (now : Int) (checksEq : run.checks = [(now, .none)])
  /-- A PING was queued, and every check after that answered `dead`. -/
  | pinged (clockEq : run.clock = run.arrivalClock.pinged run.arrivalClock.nextPing)
      (before : List (Int × Http2Session.KeepaliveAction)) (deaths : Nat)
      (few : before.length ≤ 2) (alive : ∀ answered ∈ before, answered.2 ≠ .dead)
      (checksEq : run.checks = before ++ List.replicate deaths
        (run.arrivalClock.nextPing + run.arrivalClock.timeout, .dead))

/-- What a run with punctual checks keeps. -/
structure Paced (run : KeepaliveRun Hook) : Prop where
  sound : run.Sound
  /-- The last arrival makes up for an older PING. -/
  answered : ¬ run.arrivalClock.Unanswered
  arrival : run.arrivalClock.lastRead = run.lastArrival
  timing : run.arrivalClock.time = run.clock.time ∧
    run.arrivalClock.timeout = run.clock.timeout
  onTime : run.latest ≤ run.clock.deadline
  phase : run.Phase

variable {platform : Platform} {run : KeepaliveRun Hook}

theorem Punctual.le_deadline {op : KeepaliveOp Hook} (punctual : run.Punctual op) {now : Int}
    (atNow : op.time? = some now) : now ≤ run.clock.deadline := by
  obtain ⟨deadline, next, due⟩ := punctual.due
  have deadlineEq := (run.io.session.nextKeepaliveDeadline_eq_some.mp next).2
  exact (due now atNow).trans_eq deadlineEq.symm

theorem paced_new (options : Http2SessionOptions) (hooks : Http2Session.Hooks) (now : Int)
    (env : NgEnv)
    (positive : 0 ≤ (new platform options hooks now env : KeepaliveRun Hook).clock.time) :
    Paced (new platform options hooks now env : KeepaliveRun Hook) := by
  obtain ⟨readEq, idle⟩ := clock_new options hooks now env
  have answered :
      ¬ (new platform options hooks now env : KeepaliveRun Hook).clock.Unanswered := by
    rintro ⟨outstanding, -⟩
    rw [idle] at outstanding
    cases outstanding
  refine ⟨sound_new options hooks now env, answered, readEq, ⟨rfl, rfl⟩, ?_, .waiting rfl rfl⟩
  rw [KeepaliveClock.deadline, idle, readEq]
  exact le_add_of_nonneg_right positive

/-- What leaves the clock alone leaves the phase alone, until the deadline. -/
theorem Paced.quiet (paced : Paced run) {io : SessionIo Hook} {latest : Int}
    (clockEq : io.session.keepaliveClock = run.clock) (later : run.latest ≤ latest)
    (due : latest ≤ run.clock.deadline) : Paced { run with io := io, latest := latest } := by
  obtain ⟨sound, answered, arrival, timing, -, phase⟩ := paced
  have runClock : ({ run with io := io, latest := latest } : KeepaliveRun Hook).clock =
      run.clock := clockEq
  refine ⟨sound.of_clock (.inl clockEq) rfl rfl later, answered, arrival, ?_, ?_, ?_⟩
  · rw [runClock]
    exact timing
  · rw [runClock]
    exact due
  · cases phase with
    | waiting same checksEq => exact .waiting (runClock.trans same) checksEq
    | settled acked early now checksEq =>
        exact .settled (runClock.trans acked) early now checksEq
    | pinged pinged before deaths few alive checksEq =>
        exact .pinged (runClock.trans pinged) before deaths few alive checksEq

theorem Paced.receive (paced : Paced run) {now : Int} {data : Bytes}
    (punctual : run.Punctual (.receiveBytes now data)) (live : run.clock.live = true)
    (positive : 0 < run.clock.time) :
    Paced (run.step platform (.receiveBytes now data)) := by
  have later := punctual.timely now rfl
  have due := punctual.le_deadline rfl
  have received := run.io.receiveBytes_keepaliveClock platform now data live
  by_cases empty : data = []
  · subst empty
    have noAck : (takeAnswer {} run.io.env.memRecvs).1.callbacks.any NgCallback.isPingAck =
        false := punctual.acks
    rw [noAck] at received
    exact paced.quiet received later due
  · have arrived : run.step platform (.receiveBytes now data) =
        { run with
          io := (run.io.receiveBytes platform now data).2.2
          latest := now
          lastArrival := now
          arrivalClock := (run.io.receiveBytes platform now data).2.2.session.keepaliveClock
          checks := [] } := if_pos empty
    have sound : Sound (run.step platform (.receiveBytes now data)) :=
      paced.sound.receive later live
    rw [arrived] at sound ⊢
    refine ⟨sound, ?_, sound.arrival, ⟨rfl, rfl⟩, ?_, .waiting rfl rfl⟩
    · rintro ⟨outstanding, unread⟩
      have queued := (sound.pinged outstanding).2.1
      exact absurd (unread.trans_le queued) (not_lt.mpr sound.arrival.ge)
    · change now ≤ (run.io.receiveBytes platform now data).2.2.session.keepaliveClock.deadline
      simp only [ne_eq, empty, not_false_eq_true, if_true] at received
      rw [received]
      split_ifs
      · exact le_add_of_nonneg_right positive.le
      · unfold KeepaliveClock.deadline at due ⊢
        change now ≤ if run.clock.pingOutstanding = true then _ else now + run.clock.time
        split_ifs at due ⊢ with outstanding
        · exact due
        · exact le_add_of_nonneg_right positive.le

/-! ## Punctual checks -/

section Check

variable {now : Int} (punctual : run.Punctual (.checkKeepalive now))

include punctual

theorem Punctual.enabled_at_deadline :
    run.io.session.KeepaliveEnabled ∧ run.clock.deadline = now :=
  run.io.session.nextKeepaliveDeadline_eq_some.mp (punctual.check now rfl).1

theorem Punctual.check_cases (platform : Platform) :
    let answer := (run.io.checkKeepalive platform now).1
    let clock' := (run.step platform (.checkKeepalive now)).clock
    (answer = .dead ∧ clock' = run.clock ∧ run.clock.Unanswered) ∨
    (answer = .pingSent ∧ clock' = run.clock.pinged now ∧ ¬ run.clock.Unanswered ∧
      run.clock.lastRead + run.clock.time ≤ now) ∨
    (answer = .none ∧ clock' = run.clock.acked ∧ ¬ run.clock.Unanswered ∧
      now < run.clock.lastRead + run.clock.time) := by
  intro answer clock'
  obtain ⟨enabled, atDeadline⟩ := punctual.enabled_at_deadline
  rcases run.check_cases platform now enabled.1 with
    ⟨dead, clockEq, -, unanswered, -⟩ | ⟨sent, clockEq, -, answered, idle⟩ |
      ⟨none, clockEq, -, overdue, busy⟩
  · exact .inl ⟨dead, clockEq, unanswered⟩
  · exact .inr (.inl ⟨sent, clockEq, answered, by omega⟩)
  · have answered : ¬ run.clock.Unanswered := by
      intro unanswered
      have early := overdue unanswered
      rw [KeepaliveClock.deadline, if_pos unanswered.1] at atDeadline
      omega
    rw [KeepaliveClock.settle_of_not_unanswered answered] at clockEq
    have soon := busy answered enabled (punctual.check now rfl).2
    exact .inr (.inr ⟨none, clockEq, answered, by omega⟩)

/-- A punctual check moves to the next phase, or answers `dead` once more. -/
theorem Phase.check (phase : run.Phase) (answered : ¬ run.arrivalClock.Unanswered)
    (arrival : run.arrivalClock.lastRead = run.lastArrival)
    (positive : 0 < run.arrivalClock.time) :
    (run.step platform (.checkKeepalive now)).Phase := by
  have atDeadline := punctual.enabled_at_deadline.2
  have checked := punctual.check_cases platform
  have checksEq : (run.step platform (.checkKeepalive now)).checks =
      run.checks ++ [(now, (run.io.checkKeepalive platform now).1)] := rfl
  cases phase with
  | waiting same noChecks =>
      rw [same] at checked atDeadline
      rw [noChecks] at checksEq
      rcases checked with ⟨-, -, unanswered⟩ | ⟨sent, clockEq, -, idle⟩ |
        ⟨none, clockEq, -, soon⟩
      · exact absurd unanswered answered
      · have nextEq : run.arrivalClock.nextPing = now := by
          rw [KeepaliveClock.nextPing, atDeadline]
          exact max_eq_left idle
        rw [sent] at checksEq
        exact .pinged (nextEq ▸ clockEq) [(now, .pingSent)] 0 (by simp) (by simp) checksEq
      · rw [none] at checksEq
        refine .settled clockEq ?_ now checksEq
        change run.arrivalClock.deadline < run.lastArrival + run.arrivalClock.time
        omega
  | settled acked early first oneCheck =>
      -- The deadline has moved to a `keepalive_time` after the bytes.
      rw [acked] at checked atDeadline
      rw [oneCheck] at checksEq
      change run.arrivalClock.lastRead + run.arrivalClock.time = now at atDeadline
      rcases checked with ⟨-, -, unanswered⟩ | ⟨sent, clockEq, -⟩ | ⟨-, -, -, soon⟩
      · cases unanswered.1
      · have nextEq : run.arrivalClock.nextPing = now := by
          rw [KeepaliveClock.nextPing, atDeadline]
          exact max_eq_right (by omega)
        rw [sent] at checksEq
        exact .pinged (nextEq ▸ clockEq) [(first, .none), (now, .pingSent)] 0 le_rfl
          (by simp) checksEq
      · exact absurd atDeadline soon.ne'
  | pinged pinged before deaths few alive someChecks =>
      rw [pinged] at checked atDeadline
      have unanswered := run.arrivalClock.pinged_unanswered positive
      rcases checked with ⟨dead, clockEq, -⟩ | ⟨-, -, answered, -⟩ | ⟨-, -, answered, -⟩
      · refine .pinged clockEq before (deaths + 1) few alive ?_
        change run.arrivalClock.nextPing + run.arrivalClock.timeout = now at atDeadline
        change _ = before ++ List.replicate (deaths + 1)
          (run.arrivalClock.nextPing + run.arrivalClock.timeout, .dead)
        rw [checksEq, someChecks, dead, atDeadline, List.replicate_succ', List.append_assoc]
      · exact absurd unanswered answered
      · exact absurd unanswered answered

theorem Paced.check (paced : Paced run) (positive : 0 < run.clock.time)
    (timeoutPositive : 0 < run.clock.timeout) :
    Paced (run.step platform (.checkKeepalive now)) := by
  obtain ⟨enabled, atDeadline⟩ := punctual.enabled_at_deadline
  obtain ⟨sound, answered, arrival, ⟨timeEq, timeoutEq⟩, -, phase⟩ := paced
  refine ⟨sound.check (punctual.timely now rfl) enabled.1, answered, arrival, ?_, ?_, ?_⟩
  · rw [time_step, timeout_step]
    exact ⟨timeEq, timeoutEq⟩
  · change now ≤ _
    rcases punctual.check_cases platform with
      ⟨-, clockEq, -⟩ | ⟨-, clockEq, -⟩ | ⟨-, clockEq, -, soon⟩
    · rw [clockEq]
      exact atDeadline.ge
    · rw [clockEq]
      exact le_add_of_nonneg_right timeoutPositive.le
    · rw [clockEq]
      exact soon.le
  · exact phase.check punctual answered arrival (timeEq ▸ positive)

end Check

theorem Paced.step (paced : Paced run) {op : KeepaliveOp Hook} (punctual : run.Punctual op)
    (positive : 0 < run.clock.time) (timeoutPositive : 0 < run.clock.timeout) :
    Paced (run.step platform op) := by
  have live : run.clock.live = true := by
    obtain ⟨deadline, next, -⟩ := punctual.due
    exact (run.io.session.nextKeepaliveDeadline_eq_some.mp next).1.1
  cases op with
  | receiveBytes now data => exact paced.receive punctual live positive
  | callback event =>
      have noAck : event.isPingAck = false := punctual.acks
      refine paced.quiet ?_ le_rfl paced.onTime
      exact (run.io.session.callback_keepaliveClock event).trans (if_neg (by simp [noAck]))
  | submitUnaryRequest headers body hooks =>
      exact paced.quiet (run.io.submitUnaryRequest_keepaliveClock ..) le_rfl paced.onTime
  | nextKeepaliveDeadline now =>
      exact paced.quiet rfl (punctual.timely now rfl) (punctual.le_deadline rfl)
  | checkKeepalive now => exact paced.check punctual positive timeoutPositive

theorem paced_of_reach
    (reached : Runs.Reach (KeepaliveRun.step platform) Punctual (Started platform) run)
    (positive : 0 < run.clock.time) (timeoutPositive : 0 < run.clock.timeout) :
    Paced run := by
  refine reached.invariant
    (fun run => 0 < run.clock.time → 0 < run.clock.timeout → Paced run) ?_ ?_
    positive timeoutPositive
  · rintro run ⟨options, hooks, now, env, rfl⟩ positive -
    exact paced_new options hooks now env positive.le
  · intro run op paced punctual positive timeoutPositive
    rw [time_step] at positive
    rw [timeout_step] at timeoutPositive
    exact (paced positive timeoutPositive).step punctual positive timeoutPositive

/-! ## Detection -/

theorem Phase.deadline_le (phase : run.Phase) (timeoutPositive : 0 < run.arrivalClock.timeout) :
    run.clock.deadline ≤ run.arrivalClock.nextPing + run.arrivalClock.timeout := by
  have sooner : run.arrivalClock.deadline ≤ run.arrivalClock.nextPing := le_max_left ..
  have later : run.arrivalClock.lastRead + run.arrivalClock.time ≤
    run.arrivalClock.nextPing := le_max_right ..
  cases phase with
  | waiting same => rw [same]; omega
  | settled acked =>
      rw [acked]
      change run.arrivalClock.lastRead + run.arrivalClock.time ≤ _
      omega
  | pinged pinged =>
      rw [pinged]
      exact le_rfl

/-- Three checks reach a `dead`, and all of them come at one time. -/
theorem Phase.dead_iff (phase : run.Phase) (three : 3 ≤ run.checks.length) (now : Int) :
    (now, .dead) ∈ run.checks ↔
      now = run.arrivalClock.nextPing + run.arrivalClock.timeout := by
  cases phase with
  | waiting _ noChecks => simp [noChecks] at three
  | settled _ _ _ oneCheck => simp [oneCheck] at three
  | pinged _ before deaths few alive checksEq =>
      rw [checksEq, List.length_append, List.length_replicate] at three
      have notBefore : (now, .dead) ∉ before := fun member => alive _ member rfl
      have some : deaths ≠ 0 := by omega
      rw [checksEq, List.mem_append, or_iff_right notBefore, List.mem_replicate]
      simp [some]

/-- A silent peer is found dead in time exactly when no older PING holds the checks
up.  In every run with punctual checks a next one is always due, three of them since
the last bytes arrived at `r` are enough, and one answers `dead` by
`r + keepalive_time + keepalive_timeout` unless the bytes left a PING outstanding
whose timeout ends after `r + keepalive_time`. -/
theorem silent_peer_detected_iff
    (reached : Runs.Reach (KeepaliveRun.step platform) Punctual (Started platform) run)
    (enabled : run.io.session.KeepaliveEnabled)
    (positive : 0 < run.io.session.options.keepaliveTime)
    (timeoutPositive : 0 < run.io.session.options.keepaliveTimeout) :
    let time := milliseconds run.io.session.options.keepaliveTime
    let timeout := milliseconds run.io.session.options.keepaliveTimeout
    let bound := run.lastArrival + time + timeout
    let heldUp := run.arrivalClock.pingOutstanding = true ∧
      run.lastArrival + time < run.arrivalClock.pingSent + timeout
    (∃ deadline, run.io.session.nextKeepaliveDeadline = some deadline ∧
      run.latest ≤ deadline ∧ (¬ heldUp → deadline ≤ bound)) ∧
    (3 ≤ run.checks.length →
      ((∃ now ≤ bound, (now, .dead) ∈ run.checks) ↔ ¬ heldUp)) := by
  intro time timeout bound heldUp
  have timePositive : 0 < run.clock.time := by
    change 0 < run.io.session.options.keepaliveTime * 1000000
    omega
  have timeoutPositive : 0 < run.clock.timeout := by
    change 0 < run.io.session.options.keepaliveTimeout * 1000000
    omega
  have paced := paced_of_reach reached timePositive timeoutPositive
  obtain ⟨timeEq, timeoutEq⟩ := paced.timing
  have inTime : run.arrivalClock.nextPing + run.arrivalClock.timeout ≤ bound ↔ ¬ heldUp := by
    have boundEq : bound = run.arrivalClock.lastRead + run.arrivalClock.time +
        run.arrivalClock.timeout := by
      rw [paced.arrival, timeEq, timeoutEq]
      rfl
    have heldUpEq : heldUp ↔ run.arrivalClock.HeldUp := by
      rw [KeepaliveClock.HeldUp, paced.arrival, timeEq, timeoutEq]
      rfl
    rw [boundEq, add_le_add_iff_right, heldUpEq]
    exact run.arrivalClock.nextPing_le_iff
  refine ⟨⟨run.clock.deadline, ?_, paced.onTime, ?_⟩, ?_⟩
  · exact run.io.session.nextKeepaliveDeadline_eq_some.mpr ⟨enabled, rfl⟩
  · intro notHeldUp
    exact (paced.phase.deadline_le (timeoutEq ▸ timeoutPositive)).trans (inTime.mpr notHeldUp)
  · intro three
    rw [← inTime]
    constructor
    · rintro ⟨now, inBound, dead⟩
      rwa [(paced.phase.dead_iff three now).mp dead] at inBound
    · intro inBound
      exact ⟨_, inBound, (paced.phase.dead_iff three _).mpr rfl⟩

theorem Punctual.of_check {now : Int} (later : run.latest ≤ now)
    (next : run.io.session.nextKeepaliveDeadline = some now)
    (submits : (takeAnswer 0 run.io.env.submitPings).1 = 0) :
    run.Punctual (.checkKeepalive now) where
  timely := by
    rintro _ ⟨⟩
    exact later
  due := by
    refine ⟨now, next, ?_⟩
    rintro _ ⟨⟩
    exact le_rfl
  check := by
    rintro _ ⟨⟩
    exact ⟨next, submits⟩
  acks := rfl

theorem Punctual.of_receive {now : Int} (byte : UInt8) (deadline : Int)
    (later : run.latest ≤ now)
    (next : run.io.session.nextKeepaliveDeadline = some deadline) (due : now ≤ deadline) :
    run.Punctual (.receiveBytes now [byte]) where
  timely := by
    rintro _ ⟨⟩
    exact later
  due := by
    refine ⟨deadline, next, ?_⟩
    rintro _ ⟨⟩
    exact due
  check := nofun
  acks := rfl

/-- A PING is outstanding when the last byte arrives, but times out early. -/
def promptRun : KeepaliveRun Nat :=
  [.checkKeepalive 10000000, .receiveBytes 10500000 [0], .checkKeepalive 11000000,
    .checkKeepalive 20500000, .checkKeepalive 21500000].foldl (step World.silentPlatform)
    (sampleStart 10 1)

theorem promptRun_detects :
    ∃ now ≤ promptRun.lastArrival + 10000000 + 1000000, (now, .dead) ∈ promptRun.checks := by
  have reached : Runs.Reach (KeepaliveRun.step World.silentPlatform) Punctual
      (Started World.silentPlatform) promptRun := by
    simp only [promptRun, List.foldl_cons, List.foldl_nil]
    refine .next (.next (.next (.next (.next (.start ?_) ?_) ?_) ?_) ?_) ?_
    · exact ⟨_, _, _, _, rfl⟩
    · exact .of_check (by decide) (by decide) (by decide)
    · exact .of_receive 0 11000000 (by decide) (by decide) (by decide)
    · exact .of_check (by decide) (by decide) (by decide)
    · exact .of_check (by decide) (by decide) (by decide)
    · exact .of_check (by decide) (by decide) (by decide)
  have enabled : promptRun.io.session.KeepaliveEnabled := by
    unfold Http2Session.KeepaliveEnabled
    decide
  exact ((silent_peer_detected_iff reached enabled (by decide) (by decide)).2
    (by decide)).mpr (by decide)

/-- A PING is outstanding when the last byte arrives, and times out late. -/
def heldUpRun : KeepaliveRun Nat :=
  [.receiveBytes 2000000 [0], .checkKeepalive 11000000, .checkKeepalive 21000000].foldl
    (step World.silentPlatform) sampleRun

/-- The last byte arrives at 2 ms, so the peer should be dead by 13 ms, but punctual
checks find it so at 21 ms only. -/
theorem heldUpRun_detects_late :
    Runs.Reach (KeepaliveRun.step World.silentPlatform) Punctual
        (Started World.silentPlatform) heldUpRun ∧
      heldUpRun.io.session.KeepaliveEnabled ∧
      heldUpRun.io.session.options.keepaliveTime = 1 ∧
      heldUpRun.io.session.options.keepaliveTimeout = 10 ∧
      heldUpRun.lastArrival = milliseconds 2 ∧
      heldUpRun.checks = [(milliseconds 11, .pingSent), (milliseconds 21, .dead)] ∧
      ¬ ∃ now ≤ heldUpRun.lastArrival + milliseconds 1 + milliseconds 10,
        (now, .dead) ∈ heldUpRun.checks := by
  have checksEq : heldUpRun.checks =
      [(milliseconds 11, .pingSent), (milliseconds 21, .dead)] := by
    decide
  refine ⟨?_, ?_, by decide, by decide, by decide, checksEq, ?_⟩
  · simp only [heldUpRun, sampleRun, List.foldl_cons, List.foldl_nil]
    refine .next (.next (.next (.next (.start ?_) ?_) ?_) ?_) ?_
    · exact ⟨_, _, _, _, rfl⟩
    · exact .of_check (by decide) (by decide) (by decide)
    · exact .of_receive 0 11000000 (by decide) (by decide) (by decide)
    · exact .of_check (by decide) (by decide) (by decide)
    · exact .of_check (by decide) (by decide) (by decide)
  · unfold Http2Session.KeepaliveEnabled
    decide
  · rintro ⟨now, inBound, dead⟩
    rw [checksEq] at dead
    have late : now = milliseconds 21 := by simpa using dead
    subst late
    revert inBound
    decide

end KeepaliveRun

end Egrpc
