import Egrpc.KeepaliveClock
import Egrpc.ChannelSafety

/-!
# Keepalive over whole runs

A peer is declared dead only after silence: a PING was queued after an idle
`keepalive_time`, and nothing arrived for a `keepalive_timeout` after it.  How soon
a silent peer is declared dead depends on the last read: if it left an older PING
outstanding, the first check after it waits for that PING's timeout.
-/

namespace Egrpc

/-- What can happen to a session, as far as keepalive goes. -/
inductive KeepaliveOp (Hook : Type)
  | receiveBytes (now : Int) (data : Bytes)
  | callback (event : NgCallback)
  | submitUnaryRequest (headers : HeaderList) (body : Bytes) (hooks : StreamHooks Hook)
  | nextKeepaliveDeadline (now : Int)
  | checkKeepalive (now : Int)

def KeepaliveOp.time? {Hook : Type} : KeepaliveOp Hook → Option Int
  | .receiveBytes now _ | .nextKeepaliveDeadline now | .checkKeepalive now => some now
  | .callback _ | .submitUnaryRequest _ _ _ => none

structure KeepaliveRun (Hook : Type) where
  io : SessionIo Hook
  /-- The latest time injected. -/
  latest : Int
  /-- When bytes last arrived, or the session was constructed. -/
  lastArrival : Int
  /-- The clock right after that. -/
  arrivalClock : KeepaliveClock
  /-- When nghttp2 took keepalive PINGs. -/
  pings : List Int := []
  /-- The checks since the last arrival and their answers. -/
  checks : List (Int × Http2Session.KeepaliveAction) := []

namespace KeepaliveRun

variable {Hook : Type}

def new (platform : Platform) (options : Http2SessionOptions)
    (hooks : Http2Session.Hooks) (now : Int) (env : NgEnv) : KeepaliveRun Hook :=
  let io := SessionIo.new platform options hooks now env
  { io := io, latest := now, lastArrival := now,
    arrivalClock := io.session.keepaliveClock }

def step (platform : Platform) (run : KeepaliveRun Hook) :
    KeepaliveOp Hook → KeepaliveRun Hook
  | .receiveBytes now data =>
      let io := (run.io.receiveBytes platform now data).2.2
      if data ≠ [] then
        { run with
          io := io
          latest := now
          lastArrival := now
          arrivalClock := io.session.keepaliveClock
          checks := [] }
      else { run with io := io, latest := now }
  | .callback event =>
      { run with io.session := (run.io.session.callback event).1 }
  | .submitUnaryRequest headers body hooks =>
      { run with io := (run.io.submitUnaryRequest platform headers body hooks).2 }
  | .nextKeepaliveDeadline now => { run with latest := now }
  | .checkKeepalive now =>
      let checked := run.io.checkKeepalive platform now
      { run with
        io := checked.2
        latest := now
        pings := run.pings ++
          List.replicate (checked.2.env.queuedPings - run.io.env.queuedPings) now
        checks := run.checks ++ [(now, checked.1)] }

/-- Times do not decrease. -/
def Timely (run : KeepaliveRun Hook) (op : KeepaliveOp Hook) : Prop :=
  ∀ now, op.time? = some now → run.latest ≤ now

/-- The run begins with the construction of a session. -/
def Started (platform : Platform) (run : KeepaliveRun Hook) : Prop :=
  ∃ options hooks now env, run = new platform options hooks now env

def clock (run : KeepaliveRun Hook) : KeepaliveClock :=
  run.io.session.keepaliveClock

/-! ## What a step does to the clock -/

section Steps

variable (platform : Platform) (run : KeepaliveRun Hook)

theorem clock_receiveBytes (now : Int) (data : Bytes) :
    (run.step platform (.receiveBytes now data)).clock =
      (run.io.receiveBytes platform now data).2.2.session.keepaliveClock := by
  simp only [step]
  split_ifs <;> rfl

theorem check_cases (now : Int) (live : run.clock.live = true) :
    let answer := (run.io.checkKeepalive platform now).1
    let clock' := (run.step platform (.checkKeepalive now)).clock
    let pings' := (run.step platform (.checkKeepalive now)).pings
    (answer = .dead ∧ clock' = run.clock ∧ pings' = run.pings ∧ run.clock.Unanswered ∧
      run.clock.timeout ≤ now - run.clock.pingSent) ∨
    (answer = .pingSent ∧ clock' = run.clock.pinged now ∧ pings' = run.pings ++ [now] ∧
      ¬ run.clock.Unanswered ∧ run.clock.time ≤ now - run.clock.lastRead) ∨
    (answer = .none ∧ clock' = run.clock.settle ∧ pings' = run.pings ∧
      (run.clock.Unanswered → now - run.clock.pingSent < run.clock.timeout) ∧
      (¬ run.clock.Unanswered → run.io.session.KeepaliveEnabled →
        (takeAnswer 0 run.io.env.submitPings).1 = 0 →
          now - run.clock.lastRead < run.clock.time)) := by
  rcases run.io.checkKeepalive_cases platform now live with
    ⟨answer, clockEq, queued, rest⟩ | ⟨answer, clockEq, queued, rest⟩ |
      ⟨answer, clockEq, queued, rest⟩
  · exact .inl ⟨answer, clockEq, by simp [step, queued], rest⟩
  · exact .inr (.inl ⟨answer, clockEq, by simp [step, queued], rest⟩)
  · exact .inr (.inr ⟨answer, clockEq, by simp [step, queued], rest⟩)

/-- What a read, an acknowledgement and a PING leave alone no step changes. -/
theorem step_keeps {α : Type} (field : KeepaliveClock → α)
    (read : ∀ clock now, field (clock.read now) = field clock)
    (acked : ∀ clock, field clock.acked = field clock)
    (pinged : ∀ clock now, field (clock.pinged now) = field clock)
    (op : KeepaliveOp Hook) :
    field (run.step platform op).clock = field run.clock := by
  cases op with
  | receiveBytes now data =>
      rw [clock_receiveBytes]
      cases live : run.io.session.session with
      | false =>
          rw [SessionIo.receiveBytes, if_pos live]
          rfl
      | true =>
          rw [SessionIo.receiveBytes_keepaliveClock platform run.io now data live]
          simp only
          split_ifs
          · rw [acked, read]
            rfl
          · rw [acked]
            rfl
          · rw [read]
            rfl
          · rfl
  | callback event =>
      refine (congrArg field (run.io.session.callback_keepaliveClock event)).trans ?_
      split_ifs
      · exact acked _
      · rfl
  | submitUnaryRequest headers body hooks =>
      exact congrArg field
        (run.io.submitUnaryRequest_keepaliveClock platform headers body hooks)
  | nextKeepaliveDeadline => rfl
  | checkKeepalive now =>
      cases live : run.io.session.session with
      | false =>
          change field (run.io.checkKeepalive platform now).2.session.keepaliveClock = _
          rw [SessionIo.checkKeepalive, if_pos live]
          rfl
      | true =>
          rcases run.check_cases platform now live with
            ⟨-, clockEq, -⟩ | ⟨-, clockEq, -⟩ | ⟨-, clockEq, -⟩
          · rw [clockEq]
          · rw [clockEq, pinged]
          · rw [clockEq]
            rcases run.clock.settle_cases with same | settled
            · rw [same]
            · rw [settled, acked]

/-- A session that was set up stays so, and one that was not is never touched. -/
theorem live_step (op : KeepaliveOp Hook) :
    (run.step platform op).clock.live = run.clock.live :=
  run.step_keeps platform KeepaliveClock.live (fun _ _ => rfl) (fun _ => rfl)
    (fun _ _ => rfl) op

theorem time_step (op : KeepaliveOp Hook) :
    (run.step platform op).clock.time = run.clock.time :=
  run.step_keeps platform KeepaliveClock.time (fun _ _ => rfl) (fun _ => rfl)
    (fun _ _ => rfl) op

theorem timeout_step (op : KeepaliveOp Hook) :
    (run.step platform op).clock.timeout = run.clock.timeout :=
  run.step_keeps platform KeepaliveClock.timeout (fun _ _ => rfl) (fun _ => rfl)
    (fun _ _ => rfl) op

end Steps

/-! ## Death only after silence -/

/-- What the clock is to the history of the run. -/
structure Sound (run : KeepaliveRun Hook) : Prop where
  /-- The clock has the time of the last arrival. -/
  arrival : run.clock.lastRead = run.lastArrival
  /-- An outstanding PING was queued after an idle time, or has been made up for. -/
  pinged : run.clock.pingOutstanding = true →
    run.clock.pingSent ∈ run.pings ∧ run.clock.pingSent ≤ run.latest ∧
      (run.clock.pingSent ≤ run.lastArrival ∨
        run.clock.time ≤ run.clock.pingSent - run.lastArrival)

variable {platform : Platform} {run : KeepaliveRun Hook}

theorem clock_new (options : Http2SessionOptions) (hooks : Http2Session.Hooks) (now : Int)
    (env : NgEnv) :
    let run : KeepaliveRun Hook := new platform options hooks now env
    run.clock.lastRead = now ∧ run.clock.pingOutstanding = false := by
  unfold new clock SessionIo.new SessionIo.setError
  simp only
  split_ifs <;> exact ⟨rfl, rfl⟩

theorem sound_new (options : Http2SessionOptions) (hooks : Http2Session.Hooks) (now : Int)
    (env : NgEnv) : Sound (new platform options hooks now env : KeepaliveRun Hook) := by
  obtain ⟨readEq, idle⟩ := clock_new options hooks now env
  refine ⟨readEq, ?_⟩
  intro outstanding
  rw [idle] at outstanding
  cases outstanding

theorem Sound.of_clock (sound : Sound run) {run' : KeepaliveRun Hook}
    (clockEq : run'.clock = run.clock ∨ run'.clock = run.clock.acked)
    (arrivalEq : run'.lastArrival = run.lastArrival) (pingsEq : run'.pings = run.pings)
    (later : run.latest ≤ run'.latest) : Sound run' := by
  rcases clockEq with same | acked
  · refine ⟨?_, ?_⟩
    · rw [same, arrivalEq]
      exact sound.arrival
    · rw [same, arrivalEq, pingsEq]
      intro outstanding
      obtain ⟨member, queued, idle⟩ := sound.pinged outstanding
      exact ⟨member, queued.trans later, idle⟩
  · refine ⟨?_, ?_⟩
    · rw [acked, arrivalEq]
      exact sound.arrival
    · rw [acked]
      exact fun outstanding => nomatch outstanding

theorem Sound.receive (sound : Sound run) {now : Int} {data : Bytes}
    (later : run.latest ≤ now) (live : run.clock.live = true) :
    Sound (run.step platform (.receiveBytes now data)) := by
  have clockEq := run.clock_receiveBytes platform now data
  rw [SessionIo.receiveBytes_keepaliveClock platform run.io now data live] at clockEq
  by_cases empty : data = []
  · simp only [empty, ne_eq, not_true_eq_false, if_false] at clockEq
    subst empty
    refine sound.of_clock ?_ rfl rfl later
    split_ifs at clockEq with ack
    · exact .inr clockEq
    · exact .inl clockEq
  · have stepEq : (run.step platform (.receiveBytes now data)).lastArrival = now ∧
        (run.step platform (.receiveBytes now data)).latest = now ∧
        (run.step platform (.receiveBytes now data)).pings = run.pings := by
      simp only [KeepaliveRun.step, ne_eq, empty, not_false_eq_true, if_true]
      exact ⟨trivial, trivial, trivial⟩
    obtain ⟨arrivalEq, latestEq, pingsEq⟩ := stepEq
    simp only [ne_eq, empty, not_false_eq_true, if_true] at clockEq
    refine ⟨?_, ?_⟩
    · rw [arrivalEq, clockEq]
      split_ifs <;> rfl
    · rw [arrivalEq, latestEq, pingsEq, clockEq]
      split_ifs with ack
      · exact fun outstanding => nomatch outstanding
      · intro outstanding
        obtain ⟨member, queued, -⟩ := sound.pinged outstanding
        exact ⟨member, queued.trans later, .inl (queued.trans later)⟩

theorem Sound.check (sound : Sound run) {now : Int} (later : run.latest ≤ now)
    (live : run.clock.live = true) : Sound (run.step platform (.checkKeepalive now)) := by
  rcases run.check_cases platform now live with
    ⟨-, clockEq, pingsEq, -⟩ | ⟨-, clockEq, pingsEq, -, idle⟩ | ⟨-, clockEq, pingsEq, -⟩
  · exact sound.of_clock (.inl clockEq) rfl pingsEq later
  · refine ⟨?_, ?_⟩
    · rw [clockEq]
      exact sound.arrival
    · intro _
      rw [clockEq, pingsEq]
      refine ⟨List.mem_append_right _ List.mem_cons_self, le_rfl, .inr ?_⟩
      exact sound.arrival ▸ idle
  · refine sound.of_clock ?_ rfl pingsEq later
    rw [clockEq]
    exact run.clock.settle_cases

theorem Sound.step (sound : Sound run) {op : KeepaliveOp Hook} (timely : run.Timely op)
    (live : run.clock.live = true) : Sound (run.step platform op) := by
  cases op with
  | receiveBytes now data => exact sound.receive (timely now rfl) live
  | callback event =>
      refine sound.of_clock ?_ rfl rfl le_rfl
      have clockEq := run.io.session.callback_keepaliveClock event
      by_cases ack : event.isPingAck = true
      · exact .inr (clockEq.trans (if_pos ack))
      · exact .inl (clockEq.trans (if_neg ack))
  | submitUnaryRequest headers body hooks =>
      exact sound.of_clock (.inl (run.io.submitUnaryRequest_keepaliveClock ..)) rfl rfl le_rfl
  | nextKeepaliveDeadline now =>
      exact sound.of_clock (.inl rfl) rfl rfl (timely now rfl)
  | checkKeepalive now => exact sound.check (timely now rfl) live

theorem sound_of_reach
    (reached : Runs.Reach (KeepaliveRun.step platform) Timely (Started platform) run)
    (live : run.clock.live = true) : Sound run := by
  refine reached.invariant (fun run => run.clock.live = true → Sound run) ?_ ?_ live
  · rintro run ⟨options, hooks, now, env, rfl⟩ -
    exact sound_new options hooks now env
  · intro run op sound timely stillLive
    rw [live_step] at stillLive
    exact (sound stillLive).step timely stillLive

/-- Keepalive never declares a live connection dead: over every run with times that
do not decrease, a check that answers `dead` comes a `keepalive_timeout` after
nghttp2 took a PING, and that was a `keepalive_time` after the last bytes arrived. -/
theorem dead_only_after_silence
    (reached : Runs.Reach (KeepaliveRun.step platform) Timely (Started platform) run)
    (now : Int) (dead : (run.io.checkKeepalive platform now).1 = .dead) :
    let time := milliseconds run.io.session.options.keepaliveTime
    let timeout := milliseconds run.io.session.options.keepaliveTimeout
    (∃ p ∈ run.pings, timeout ≤ now - p ∧ time ≤ p - run.lastArrival) ∧
      time + timeout ≤ now - run.lastArrival := by
  intro time timeout
  have live : run.clock.live = true := by
    by_contra gone
    have absent : run.io.session.session = false := Bool.eq_false_of_not_eq_true gone
    rw [SessionIo.checkKeepalive, if_pos absent] at dead
    cases dead
  have sound := sound_of_reach reached live
  rcases run.check_cases platform now live with
    ⟨-, -, -, ⟨outstanding, unread⟩, overdue⟩ | ⟨answer, -⟩ | ⟨answer, -⟩
  · rw [sound.arrival] at unread
    obtain ⟨member, -, idle⟩ := sound.pinged outstanding
    have idle := idle.resolve_left (not_le.mpr unread)
    change time ≤ run.clock.pingSent - run.lastArrival at idle
    change timeout ≤ now - run.clock.pingSent at overdue
    exact ⟨⟨run.clock.pingSent, member, overdue, idle⟩, by omega⟩
  · rw [answer] at dead
    cases dead
  · rw [answer] at dead
    cases dead

def sampleStart (keepaliveTime keepaliveTimeout : Int) : KeepaliveRun Nat :=
  new World.silentPlatform
    { keepaliveTime := keepaliveTime, keepaliveTimeout := keepaliveTimeout } {} 0 {}

/-- A PING goes out after 1 ms and times out after another 10 ms. -/
def sampleRun : KeepaliveRun Nat :=
  (sampleStart 1 10).step World.silentPlatform (.checkKeepalive 1000000)

theorem dead_after_eleven_milliseconds :
    (sampleRun.io.checkKeepalive World.silentPlatform 11000000).1 = .dead ∧
      (∃ p ∈ sampleRun.pings, 10000000 ≤ 11000000 - p ∧
        1000000 ≤ p - sampleRun.lastArrival) ∧
      1000000 + 10000000 ≤ 11000000 - sampleRun.lastArrival := by
  have dead : (sampleRun.io.checkKeepalive World.silentPlatform 11000000).1 = .dead := by
    decide
  refine ⟨dead, dead_only_after_silence (.next (.start ⟨_, _, _, _, rfl⟩) ?_) _ dead⟩
  rintro now ⟨⟩
  decide

end KeepaliveRun

end Egrpc
