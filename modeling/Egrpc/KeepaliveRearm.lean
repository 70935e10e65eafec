import Egrpc.KeepaliveClock
import Egrpc.ChannelKeepalive

/-!
# Rearming the keepalive timer

`RunDue` fires timers until none is due, and those that its callbacks add count.
The keepalive callback adds a timer whenever it runs, so a pass over the timers
ends only if that timer lies ahead.  `CheckKeepalive` and `NextKeepaliveDeadline`
split their cases differently; in all of them the deadline after a check is later
than the check, unless nghttp2 refused the PING.  The flush between the check and
the rearming leaves the clock alone and can close the gate, but not open it.
-/

namespace Egrpc

/-! ## The deadline after a check -/

namespace SessionIo

variable {Hook : Type} (platform : Platform) (io : SessionIo Hook)

/-- The check asks nghttp2 to queue a PING, and nghttp2 answers with an error. -/
def PingRefused (now : Int) : Prop :=
  (takeAnswer 0 io.env.submitPings).1 ≠ 0 ∧
    (io.checkKeepalive platform now).2.env.submitPings =
      (takeAnswer 0 io.env.submitPings).2

instance (now : Int) : Decidable (io.PingRefused platform now) :=
  inferInstanceAs (Decidable (_ ∧ _))

/-- A check that finds the connection idle asks for a PING. -/
theorem checkKeepalive_submitPings {now : Int} (enabled : io.session.KeepaliveEnabled)
    (answered : ¬ io.session.keepaliveClock.Unanswered)
    (idle : io.session.keepaliveClock.time ≤ now - io.session.keepaliveClock.lastRead) :
    (io.checkKeepalive platform now).2.env.submitPings =
      (takeAnswer 0 io.env.submitPings).2 := by
  obtain ⟨clockEq, envEq, gateIff⟩ := io.settle_spec
  obtain ⟨timeEq, -, readEq, -⟩ := io.session.keepaliveClock.settle_timing
  have settled : ¬ io.settle.session.pingOutstanding = true := by
    rw [← io.session.keepaliveClock.settle_pingOutstanding, ← clockEq] at answered
    exact answered
  rw [← clockEq] at timeEq readEq
  rw [← timeEq, ← readEq] at idle
  change milliseconds io.settle.session.options.keepaliveTime ≤
    now - io.settle.session.lastRead at idle
  rw [io.checkKeepalive_eq platform now enabled.1, checkSettled, if_neg settled,
    if_neg (gateIff.mpr enabled).2, if_pos idle, ← envEq]
  unfold submitPing
  simp only
  split_ifs <;> rfl

/-- After a check that neither gives the peer up nor fails to queue its PING,
keepalive is due later than the check, if at all. -/
theorem lt_nextKeepaliveDeadline_checkKeepalive {now deadline : Int}
    (timeoutPos : 0 < io.session.options.keepaliveTimeout)
    (alive : (io.checkKeepalive platform now).1 ≠ .dead)
    (queued : ¬ io.PingRefused platform now)
    (due : (io.checkKeepalive platform now).2.session.nextKeepaliveDeadline =
      some deadline) : now < deadline := by
  obtain ⟨enabledAfter, rfl⟩ := (Http2Session.nextKeepaliveDeadline_eq_some _).mp due
  have same := (io.checkKeepalive_same platform now).1
  have enabled : io.session.KeepaliveEnabled := by
    unfold Http2Session.KeepaliveEnabled at enabledAfter ⊢
    rw [same.options, same.activeStreams, same.live] at enabledAfter
    exact enabledAfter
  have wait : 0 < io.session.keepaliveClock.timeout := by
    change 0 < io.session.options.keepaliveTimeout * 1000000
    omega
  rcases io.checkKeepalive_cases platform now enabled.1 with
    ⟨dead, -⟩ | ⟨-, clockEq, -⟩ | ⟨-, clockEq, -, unexpired, prompt⟩
  · exact absurd dead alive
  · rw [clockEq]
    change now < now + io.session.keepaliveClock.timeout
    omega
  · obtain ⟨timeEq, timeoutEq, readEq, sentEq⟩ :=
      io.session.keepaliveClock.settle_timing
    rw [clockEq, KeepaliveClock.deadline, timeEq, timeoutEq, readEq, sentEq]
    split_ifs with outstanding
    · have := unexpired (io.session.keepaliveClock.settle_pingOutstanding.mp outstanding)
      omega
    · have answered : ¬ io.session.keepaliveClock.Unanswered := fun unanswered =>
        outstanding (io.session.keepaliveClock.settle_pingOutstanding.mpr unanswered)
      by_cases accepted : (takeAnswer 0 io.env.submitPings).1 = 0
      · have := prompt answered enabled accepted
        omega
      · by_contra passed
        exact queued ⟨accepted,
          io.checkKeepalive_submitPings platform enabled answered (by omega)⟩

end SessionIo

/-! ## The clock during a flush -/

/-- nghttp2 reports frames as received only while it is given input, so what it
does to produce output acknowledges no PING. -/
def NgEnv.SendsNoPingAck (env : NgEnv) : Prop :=
  ∀ send ∈ env.memSends, send.callbacks.any NgCallback.isPingAck = false

instance (env : NgEnv) : Decidable env.SendsNoPingAck :=
  inferInstanceAs (Decidable (∀ _ ∈ _, _))

namespace SessionIo

variable {Hook : Type} (platform : Platform)

theorem refill_keepaliveClock (sends : List MemSend) (session : Http2Session Hook)
    (noAck : ∀ send ∈ sends, send.callbacks.any NgCallback.isPingAck = false) :
    (refill platform sends session).2.2.1.keepaliveClock = session.keepaliveClock ∧
      ∀ send ∈ (refill platform sends session).2.2.2, send ∈ sends := by
  induction sends generalizing session with
  | nil => exact ⟨rfl, fun _ member => member⟩
  | cons answer answers ih =>
      have ran : (session.runCallbacks answer.callbacks).1.keepaliveClock =
          session.keepaliveClock := by
        rw [session.runCallbacks_keepaliveClock, noAck answer List.mem_cons_self]
        rfl
      unfold refill
      simp only
      split
      · exact ⟨ran, fun _ => List.mem_cons_of_mem _⟩
      · exact ⟨ran, fun _ => List.mem_cons_of_mem _⟩
      · rename_i chunk _ _
        obtain ⟨clockEq, rest⟩ := ih
          { (session.runCallbacks answer.callbacks).1 with
            out := (session.runCallbacks answer.callbacks).1.out ++ chunk }
          fun send member => noAck send (List.mem_cons_of_mem _ member)
        exact ⟨clockEq.trans ran, fun send member =>
          List.mem_cons_of_mem _ (rest send member)⟩

theorem checkKeepalive_memSends (io : SessionIo Hook) (now : Int) :
    (io.checkKeepalive platform now).2.env.memSends = io.env.memSends := by
  unfold checkKeepalive submitPing setError
  simp only
  split_ifs <;> rfl

theorem pendingOutput_keepaliveClock (io : SessionIo Hook)
    (noAck : io.env.SendsNoPingAck) :
    (io.pendingOutput platform).2.2.session.keepaliveClock =
        io.session.keepaliveClock ∧
      (io.pendingOutput platform).2.2.env.SendsNoPingAck := by
  obtain ⟨clockEq, rest⟩ :=
    refill_keepaliveClock platform io.env.memSends io.session.clearOutput noAck
  have refilled : (io.refillOutput platform).2.2.session.keepaliveClock =
        io.session.keepaliveClock ∧
      (io.refillOutput platform).2.2.env.SendsNoPingAck :=
    ⟨clockEq, fun send member => noAck send (rest send member)⟩
  unfold pendingOutput
  simp only
  split_ifs
  · exact ⟨rfl, noAck⟩
  · exact refilled
  · exact refilled
  · exact ⟨rfl, noAck⟩

end SessionIo

namespace World

variable {platform : Platform} {config : ChannelConfig} {held : List Nat}
  {queue : List PendingCall} {w start : World}

/-- A ready channel whose session has the given clock and will not have a PING
acknowledged by producing output. -/
structure Clocked (clock : KeepaliveClock) (w : World) : Prop where
  state : w.state = .ready
  session : ∃ session, w.h2 = some session ∧ session.keepaliveClock = clock
  noAck : w.ng.SendsNoPingAck

theorem Clocked.flushInvariant (platform : Platform) (clock : KeepaliveClock) :
    FlushInvariant platform (Clocked clock)
      fun w => Clocked clock w ∨ w.state = .failed where
  pendingOutput := by
    intro w clocked
    obtain ⟨session, present, clockEq⟩ := clocked.session
    obtain ⟨same, noAck⟩ := SessionIo.pendingOutput_keepaliveClock platform
      ⟨session, w.ng⟩ clocked.noAck
    rw [World.pendingOutput, onSession_of_some present]
    exact ⟨clocked.state, ⟨_, rfl, same.trans clockEq⟩, noAck⟩
  write := fun _ clocked => { clocked with }
  consumeOutput := by
    intro w count clocked
    obtain ⟨session, present, clockEq⟩ := clocked.session
    rw [World.consumeOutput, onSessionQuietly_of_some present]
    exact ⟨clocked.state, ⟨_, rfl, clockEq⟩, clocked.noAck⟩
  outputDrained := by
    intro w clocked
    obtain ⟨session, present, _⟩ := clocked.session
    have resolved : w.resolve .session = some session.error := by
      simp [resolve, present]
    unfold World.outputDrained
    rw [peek_of_some present]
    simp only
    split_ifs
    · exact .inr (tearDown_spec (by simp [clocked.state]) resolved).state
    · exact .inl clocked
  tearDown := fun clocked => .inr (tearDown_spec (by simp [clocked.state]) rfl).state
  leave := .inl

/-! ## The callback -/

/-- `RearmKeepalive` adds no timer that is due before the session's deadline. -/
theorem Live.rearmKeepalive_dueAfter (live : w.Live config held queue)
    {session : Http2Session Nat} (present : w.h2 = some session) {now : Int}
    (later : ∀ deadline, session.nextKeepaliveDeadline = some deadline → now < deadline) :
    (w.rearmKeepalive platform).timers.DueAfter now := by
  have here : w.cancelKeepaliveTimer.readClock.2.h2 = some session := present
  unfold World.rearmKeepalive
  rw [if_neg (by simp [live.state, present])]
  simp only
  rw [peek_of_some here]
  cases due : session.nextKeepaliveDeadline with
  | none => exact TimerHeap.dueAfter_of_none live.timers.cancelNamed now
  | some deadline =>
      refine TimerHeap.dueAfter_add platform.timerAlgorithms live.timers.cancelNamed ?_ _
      -- The event thread reads the clock once more before it adds the delay.
      have ahead := later deadline due
      simp only [World.readClock]
      omega

/-- The keepalive callback, run now, fails to queue a PING. -/
def PingRefused (platform : Platform) (w : World) : Prop :=
  ∃ session ∈ w.h2, SessionIo.PingRefused platform ⟨session, w.ng⟩ w.readClock.1

instance (w : World) : Decidable (w.PingRefused platform) :=
  match present : w.h2 with
  | none => isFalse (by simp [PingRefused, present])
  | some session =>
      decidable_of_iff (SessionIo.PingRefused platform ⟨session, w.ng⟩ w.readClock.1)
        (by simp [PingRefused, present])

theorem Live.flushOutput_deadline (live : w.Live config [] [])
    (configured : Holding (Configured config) w w) (noAck : w.ng.SendsNoPingAck)
    {session session' : Http2Session Nat} (present : w.h2 = some session)
    (ready : (w.flushOutput platform).state = .ready)
    (present' : (w.flushOutput platform).h2 = some session') {deadline : Int}
    (due : session'.nextKeepaliveDeadline = some deadline) :
    session.nextKeepaliveDeadline = some deadline := by
  have flushed := (Clocked.flushInvariant platform session.keepaliveClock).flushOutput
    ⟨live.state, ⟨session, present, rfl⟩, noAck⟩
  rcases flushed with clocked | failed
  · obtain ⟨same, present'', clockEq⟩ := clocked.session
    obtain rfl : session' = same := Option.some.inj (present'.symm.trans present'')
    cases before : session.nextKeepaliveDeadline with
    | some deadline' =>
        have wanted := (session.nextKeepaliveDeadline_eq_some.mp before).2
        have wanted' := (session'.nextKeepaliveDeadline_eq_some.mp due).2
        rw [← wanted, ← wanted', clockEq]
    | none =>
        -- There was nothing to guard, and flushing submits no call.
        obtain ⟨served, presentServed, serving⟩ := live.session
        obtain rfl : session = served := Option.some.inj (present.symm.trans presentServed)
        obtain ⟨known, presentKnown, hasOptions⟩ := configured.session
        obtain rfl : session = known := Option.some.inj (present.symm.trans presentKnown)
        have resting : Resting config True 0 session w.table :=
          resting_of_deadline serving hasOptions (by simp [before])
        have kept : HoldingOrFailed (Resting config True 0) w (w.flushOutput platform) :=
          (Holding.transfer (Resting.sessionInvariant config True 0)).flushOutput
            ⟨live.state, rfl, rfl, session, present, resting⟩
        obtain ⟨rested, presentRested, stillResting⟩ := (kept.holding ready).session
        obtain rfl : session' = rested := Option.some.inj (present'.symm.trans presentRested)
        exact absurd rfl (stillResting.deadline trivial (by rw [due]; rfl))
  · cases ready.symm.trans failed

/-- Flushing and rearming add no timer that is due before the deadline there was. -/
theorem Live.flushOutput_rearmKeepalive_dueAfter (live : w.Live config [] [])
    (configured : Holding (Configured config) w w) (noAck : w.ng.SendsNoPingAck)
    {session : Http2Session Nat} (present : w.h2 = some session) {now : Int}
    (later : ∀ deadline, session.nextKeepaliveDeadline = some deadline → now < deadline) :
    ((w.flushOutput platform).rearmKeepalive platform).timers.DueAfter now := by
  have flushed : (w.flushOutput platform).LiveOrFailed config [] [] := live.flushOutput
  rcases flushed with stillLive | ⟨_, down⟩
  · obtain ⟨session', present', _⟩ := stillLive.session
    refine stillLive.rearmKeepalive_dueAfter present' fun deadline due => later deadline ?_
    exact live.flushOutput_deadline configured noAck present stillLive.state present' due
  · unfold World.rearmKeepalive
    rw [if_pos (.inl down.not_ready)]
    exact TimerHeap.dueAfter_of_none down.timers now

/-- Once the keepalive callback has run, every pending timer is due later than the
time at which it was found due. -/
theorem Live.onKeepaliveTimer_dueAfter
    (live : ({ w with keepaliveTimer := 0 } : World).Live config [] [])
    (configured : ∀ session ∈ w.h2, session.options = config.options.http2)
    (timeoutPos : 0 < config.options.http2.keepaliveTimeout) {now : Int}
    (past : now ≤ w.now) (noAck : w.ng.SendsNoPingAck)
    (queued : ¬ w.PingRefused platform) :
    (w.onKeepaliveTimer platform).timers.DueAfter now := by
  obtain ⟨session, present, _⟩ := live.session
  have hasOptions : session.options = config.options.http2 := configured session present
  let io : SessionIo Nat := ⟨session, w.ng⟩
  have checked : ({ w with keepaliveTimer := 0 } : World).checkKeepalive platform =
      ((io.checkKeepalive platform w.readClock.1).1,
        ({ w with keepaliveTimer := 0 } : World).readClock.2.withSession
          (io.checkKeepalive platform w.readClock.1).2) :=
    onSessionQuietly_of_some present
  have stillLive : (({ w with keepaliveTimer := 0 } : World).checkKeepalive
      platform).2.Live config [] [] := Live.transfer.checkKeepalive live
  rw [onKeepaliveTimer_of_some (w := w) live.state present]
  split_ifs with dead
  · exact TimerHeap.dueAfter_of_none (stillLive.ongoing.tearDown rfl).2.timers now
  · have same := (io.checkKeepalive_same platform w.readClock.1).1
    rw [checked] at dead stillLive ⊢
    refine stillLive.flushOutput_rearmKeepalive_dueAfter
      ⟨stillLive.state, rfl, rfl, _, rfl, same.options.trans hasOptions⟩ ?_ rfl ?_
    · intro send member
      rw [World.withSession, io.checkKeepalive_memSends] at member
      exact noAck send member
    · intro deadline due
      have ahead := io.lt_nextKeepaliveDeadline_checkKeepalive platform
        (hasOptions ▸ timeoutPos) dead (fun refused => queued ⟨session, present, refused⟩) due
      simp only [World.readClock] at ahead
      omega

/-! ## A pass over the timers -/

/-- `RunDue`: the callbacks that ran, in order, and what they left, if the given
number of rounds is enough. -/
def runDuePass (platform : Platform) (now : Int) :
    Nat → World → Option (List TimerCallback × World)
  | 0, _ => none
  | rounds + 1, w =>
      match (w.timers.takeDue platform.timerAlgorithms now).1 with
      | none => some ([], w.runDue platform now)
      | some (_, callback) =>
          (runDuePass platform now rounds (w.runDue platform now)).map fun rest =>
            (callback :: rest.1, rest.2)

theorem runDuePass_of_dueAfter {now : Int} (later : w.timers.DueAfter now) (rounds : Nat) :
    w.runDuePass platform now (rounds + 1) = some ([], w.runDue platform now) := by
  simp only [runDuePass, later.takeDue platform.timerAlgorithms]

/-- After a round that fires, every pending timer is due later. -/
theorem Reachable.runDue_dueAfter (reachable : Reachable platform config w)
    (timeoutPos : 0 < config.options.http2.keepaliveTimeout)
    (noAck : w.ng.SendsNoPingAck) {now : Int} (past : now ≤ w.now)
    (queued : ∀ id, (w.timers.takeDue platform.timerAlgorithms now).1 =
      some (id, .keepalive) → ¬ w.PingRefused platform)
    {fired : Nat × TimerCallback}
    (fires : (w.timers.takeDue platform.timerAlgorithms now).1 = some fired) :
    (w.runDue platform now).timers.DueAfter now := by
  have pending : ¬ ∀ id, id ∉ w.timers.callbacks := by
    intro none
    rw [(TimerHeap.dueAfter_of_none none now).takeDue] at fires
    cases fires
  rcases reachable.between with idle | connecting | live | down
  · exact absurd idle.timers pending
  · rcases connecting.runDue_cases now with ⟨_, down⟩ | ⟨_, _, _, nothing⟩
    · exact TimerHeap.dueAfter_of_none down.timers now
    · cases fires.symm.trans nothing
  · rcases live.timers.takeDue platform.timerAlgorithms now with
      ⟨nothing, _⟩ | ⟨keepalive, _, none⟩
    · cases fires.symm.trans nothing
    · have configured := reachable.configured live.state
      simp only [World.runDue, keepalive]
      refine Live.onKeepaliveTimer_dueAfter
        (w := { w with timers := (w.timers.takeDue platform.timerAlgorithms now).2 })
        { live with timers := TimerHeap.only_zero none _ } ?_ timeoutPos past noAck
        (queued _ keepalive)
      intro session present
      obtain ⟨session', present', hasOptions⟩ := configured.session
      obtain rfl : session' = session := Option.some.inj (present'.symm.trans present)
      exact hasOptions
  · exact absurd down.timers pending

/-- Rearming keepalive cannot spin.  After every check that neither gives the peer up
nor fails to queue its PING, keepalive is due later than the check, if at all.  So
in every reachable channel, with a clock that does not go back, the keepalive
callback leaves no timer that is due in the pass which ran it; two rounds are
enough for every pass, and keepalive runs in at most one of them. -/
theorem keepalive_rearm_cannot_spin (platform : Platform) (config : ChannelConfig) :
    (∀ {Hook : Type} (io : SessionIo Hook) (now : Int),
      0 < io.session.options.keepaliveTimeout →
      (io.checkKeepalive platform now).1 ≠ .dead → ¬ io.PingRefused platform now →
      ∀ deadline, (io.checkKeepalive platform now).2.session.nextKeepaliveDeadline =
        some deadline → now < deadline) ∧
    ∀ (w : World) (now : Int), Reachable platform config w →
      0 < config.options.http2.keepaliveTimeout → w.ng.SendsNoPingAck → now ≤ w.now →
      (∀ id, (w.timers.takeDue platform.timerAlgorithms now).1 = some (id, .keepalive) →
        ¬ w.PingRefused platform) →
      (∀ id, (w.timers.takeDue platform.timerAlgorithms now).1 = some (id, .keepalive) →
        (w.runDue platform now).timers.DueAfter now) ∧
      ∃ fired w', (∀ rounds, 2 ≤ rounds →
          w.runDuePass platform now rounds = some (fired, w')) ∧
        fired.count .keepalive ≤ 1 := by
  refine ⟨fun io now timeoutPos alive queued deadline due =>
    io.lt_nextKeepaliveDeadline_checkKeepalive platform timeoutPos alive queued due, ?_⟩
  intro w now reachable timeoutPos noAck past queued
  have later : ∀ {fired : Nat × TimerCallback},
      (w.timers.takeDue platform.timerAlgorithms now).1 = some fired →
      (w.runDue platform now).timers.DueAfter now :=
    reachable.runDue_dueAfter timeoutPos noAck past queued
  refine ⟨fun _ => later, ?_⟩
  cases taken : (w.timers.takeDue platform.timerAlgorithms now).1 with
  | none =>
      refine ⟨[], w.runDue platform now, ?_, by simp⟩
      intro rounds enough
      obtain ⟨rest, rfl⟩ := Nat.exists_eq_add_of_le' enough
      simp only [runDuePass, taken]
  | some fired =>
      refine ⟨[fired.2], (w.runDue platform now).runDue platform now, ?_,
        List.count_le_length⟩
      intro rounds enough
      obtain ⟨rest, rfl⟩ := Nat.exists_eq_add_of_le' enough
      rw [runDuePass]
      simp only [taken, runDuePass_of_dueAfter (later taken), Option.map_some]

/-- A channel that may ping without calls, after one idle millisecond. -/
def rearmConfig : ChannelConfig :=
  { pingConfig true with options.http2.keepaliveTime := 1 }

/-- Five milliseconds pass between the start of its session and the first
`RearmKeepalive`. -/
def rearmDue : World :=
  (({ sampleStart with ticks := [0, 0, 5000000] } : World).step silentPlatform rearmConfig
    (.newCall { call := 0 })).step silentPlatform rearmConfig (.ready POLLOUT)

/-- Its keepalive timer is due at once, and once only. -/
theorem rearmDue_fires_once :
    (rearmDue.timers.takeDue silentPlatform.timerAlgorithms 5000000).1 =
        some (2, .keepalive) ∧
      (rearmDue.runDue silentPlatform 5000000).timers.DueAfter 5000000 ∧
      ∃ fired w', (∀ rounds, 2 ≤ rounds →
          rearmDue.runDuePass silentPlatform 5000000 rounds = some (fired, w')) ∧
        fired.count .keepalive ≤ 1 := by
  have fresh : ({ sampleStart with ticks := [0, 0, 5000000] } : World).Fresh rearmConfig :=
    sampleStart_fresh rearmConfig rfl _ rfl _
  have reachable : Reachable silentPlatform rearmConfig rearmDue :=
    .next (.next (.start fresh) List.not_mem_nil) trivial
  have fires : (rearmDue.timers.takeDue silentPlatform.timerAlgorithms 5000000).1 =
      some (2, .keepalive) := by decide
  obtain ⟨ahead, ends⟩ := (keepalive_rearm_cannot_spin silentPlatform rearmConfig).2
    rearmDue 5000000 reachable (by decide) (by decide) (by decide) (fun _ _ => by decide)
  exact ⟨fires, ahead 2 fires, ends⟩

end World

end Egrpc
