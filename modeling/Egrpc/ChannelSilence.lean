import Egrpc.ChannelTraffic
import Egrpc.KeepaliveRearm

/-!
# A channel gives up on a silent peer only

Keepalive decides by the clock of the session, and the session is touched from
every handler of a ready channel.  A view of the session is that clock, the bytes
that nghttp2 was given, and how often it was asked for a PING.  Every operation
moves the view in one of four ways, and the channel's clock never runs backwards.
So over whole runs of a channel: when the keepalive callback tears it down, no
byte had arrived for a `keepalive_time` and a `keepalive_timeout`, and the PING
had been out for a `keepalive_timeout`.
-/

namespace Egrpc

theorem KeepaliveClock.acked_if_cases (clock : KeepaliveClock) (ack : Bool) :
    (if ack then clock.acked else clock) = clock ∨
      (if ack then clock.acked else clock) = clock.acked := by
  cases ack with
  | true => exact .inr rfl
  | false => exact .inl rfl

def NgCall.isPing : NgCall → Bool
  | .submitPing _ _ => true
  | .submitSettings _ | .setLocalWindowSize _ _ | .submitRequest _ _ | .memRecv _
  | .terminateSession => false

/-- The bytes that nghttp2 was given. -/
def NgEnv.heard (env : NgEnv) : Bytes :=
  (env.calls.filterMap NgCall.received?).flatten

/-- How often nghttp2 was asked for a PING. -/
def NgEnv.asked (env : NgEnv) : Nat :=
  env.calls.countP NgCall.isPing

/-- What keepalive sees of a session. -/
structure KeepaliveView where
  clock : KeepaliveClock
  heard : Bytes
  asked : Nat

def SessionIo.keepaliveView {Hook : Type} (io : SessionIo Hook) : KeepaliveView where
  clock := io.session.keepaliveClock
  heard := io.env.heard
  asked := io.env.asked

namespace KeepaliveView

/-- What the operations of a session do to its view at a given time. -/
inductive Move (now : Int) (v : KeepaliveView) : KeepaliveView → Prop
  /-- At most an acknowledgement arrives. -/
  | stays {clock : KeepaliveClock} (same : clock = v.clock ∨ clock = v.clock.acked) :
      Move now v { v with clock := clock }
  | reads {clock : KeepaliveClock} (heard : Bytes)
      (read : clock = v.clock.read now ∨ clock = (v.clock.read now).acked) :
      Move now v { v with clock := clock, heard := heard }
  | pings (idle : v.clock.time ≤ now - v.clock.lastRead) :
      Move now v { v with clock := v.clock.pinged now, asked := v.asked + 1 }
  /-- nghttp2 refuses the PING; no other one is outstanding. -/
  | asks {clock : KeepaliveClock} (same : clock = v.clock ∨ clock = v.clock.acked)
      (settled : clock.pingOutstanding = false) :
      Move now v { v with clock := clock, asked := v.asked + 1 }

/-- A property of views that time and the operations of a session keep. -/
structure Invariant (good : Int → KeepaliveView → Prop) : Prop where
  later : ∀ {now now' : Int} {v : KeepaliveView}, good now v → now ≤ now' → good now' v
  move : ∀ {now : Int} {v v' : KeepaliveView}, good now v → v.Move now v' → good now v'

end KeepaliveView

namespace SessionIo

variable {Hook : Type} (platform : Platform) (io : SessionIo Hook)

/-- The view of a session after calls that neither give bytes nor ask for a
PING. -/
theorem keepaliveView_of_calls {io io' : SessionIo Hook} {said : List NgCall}
    (calls : io'.env.calls = io.env.calls ++ said)
    (silent : ∀ call ∈ said, call.received? = none ∧ call.isPing = false) :
    io'.keepaliveView =
      { io.keepaliveView with clock := io'.session.keepaliveClock } := by
  have noBytes : said.filterMap NgCall.received? = [] :=
    List.filterMap_eq_nil_iff.mpr fun call member => (silent call member).1
  have noPings : said.countP NgCall.isPing = 0 :=
    List.countP_eq_zero.mpr fun call member => by simp [(silent call member).2]
  simp only [keepaliveView, NgEnv.heard, NgEnv.asked, calls, List.filterMap_append, noBytes,
    List.append_nil, List.countP_append, noPings, Nat.add_zero]

theorem move_of_same {io io' : SessionIo Hook} (now : Int)
    (calls : io'.env.calls = io.env.calls)
    (clock : io'.session.keepaliveClock = io.session.keepaliveClock ∨
      io'.session.keepaliveClock = io.session.keepaliveClock.acked) :
    io.keepaliveView.Move now io'.keepaliveView := by
  rw [keepaliveView_of_calls (calls.trans (List.append_nil _).symm)
    (List.forall_mem_nil _)]
  exact .stays clock

theorem refill_clock (sends : List MemSend) (session : Http2Session Hook) :
    (refill platform sends session).2.2.1.keepaliveClock = session.keepaliveClock ∨
      (refill platform sends session).2.2.1.keepaliveClock =
        session.keepaliveClock.acked := by
  induction sends generalizing session with
  | nil => exact .inl rfl
  | cons answer answers ih =>
      have ran : (session.runCallbacks answer.callbacks).1.keepaliveClock =
            session.keepaliveClock ∨
          (session.runCallbacks answer.callbacks).1.keepaliveClock =
            session.keepaliveClock.acked := by
        rw [session.runCallbacks_keepaliveClock]
        exact session.keepaliveClock.acked_if_cases _
      unfold refill
      simp only
      split
      · exact ran
      · exact ran
      · rename_i chunk _ _
        have next := ih { (session.runCallbacks answer.callbacks).1 with
          out := (session.runCallbacks answer.callbacks).1.out ++ chunk }
        change _ = (session.runCallbacks answer.callbacks).1.keepaliveClock ∨
          _ = (session.runCallbacks answer.callbacks).1.keepaliveClock.acked at next
        rcases ran with same | acked
        · rw [same] at next
          exact next
        · rw [acked] at next
          exact .inr (next.elim id id)

theorem pendingOutput_move (now : Int) :
    io.keepaliveView.Move now (io.pendingOutput platform).2.2.keepaliveView := by
  refine move_of_same now (pendingOutput_frame platform io).1 ?_
  have refilled : (io.refillOutput platform).2.2.session.keepaliveClock =
        io.session.keepaliveClock ∨
      (io.refillOutput platform).2.2.session.keepaliveClock =
        io.session.keepaliveClock.acked :=
    refill_clock platform io.env.memSends io.session.clearOutput
  unfold pendingOutput
  simp only
  split_ifs
  · exact .inl rfl
  · exact refilled
  · exact refilled
  · exact .inl rfl

theorem wantWrite_move (now : Int) :
    io.keepaliveView.Move now io.wantWrite.2.keepaliveView := by
  refine move_of_same now (wantWrite_calls io) (.inl ?_)
  unfold wantWrite
  split_ifs <;> rfl

theorem submitUnaryRequest_move (now : Int) (headers : HeaderList) (body : Bytes)
    (hooks : StreamHooks Hook) :
    io.keepaliveView.Move now
      (io.submitUnaryRequest platform headers body hooks).2.keepaliveView := by
  have clock := io.submitUnaryRequest_keepaliveClock platform headers body hooks
  rcases submitUnaryRequest_calls platform headers body hooks io with ⟨-, same⟩ | said
  · exact move_of_same now same (.inl clock)
  · rw [keepaliveView_of_calls said (by simp [NgCall.received?, NgCall.isPing])]
    exact .stays (.inl clock)

theorem receiveBytes_move (now : Int) (data : Bytes) :
    io.keepaliveView.Move now (io.receiveBytes platform now data).2.2.keepaliveView := by
  cases live : io.session.session with
  | false =>
      have same : (io.receiveBytes platform now data).2.2 = io := by
        rw [receiveBytes, if_pos live]
      rw [same]
      exact .stays (.inl rfl)
  | true =>
      have clock := io.receiveBytes_keepaliveClock platform now data live
      have calls := receiveBytes_calls platform now data live
      by_cases empty : data = []
      · -- An empty chunk gives no bytes.
        subst empty
        have view : (io.receiveBytes platform now []).2.2.keepaliveView =
            { io.keepaliveView with
              clock := (io.receiveBytes platform now []).2.2.session.keepaliveClock } := by
          simp [keepaliveView, NgEnv.heard, NgEnv.asked, calls, NgCall.received?, NgCall.isPing]
        rw [view]
        apply KeepaliveView.Move.stays
        rw [clock]
        simp only [ne_eq, not_true_eq_false, if_false]
        exact KeepaliveClock.acked_if_cases _ _
      · have view : (io.receiveBytes platform now data).2.2.keepaliveView =
            { io.keepaliveView with
              clock := (io.receiveBytes platform now data).2.2.session.keepaliveClock
              heard := io.keepaliveView.heard ++ data } := by
          simp [keepaliveView, NgEnv.heard, NgEnv.asked, calls, NgCall.received?, NgCall.isPing]
        rw [view]
        apply KeepaliveView.Move.reads
        rw [clock]
        simp only [ne_eq, empty, not_false_eq_true, if_true]
        exact KeepaliveClock.acked_if_cases _ _

/-- A check asks for a PING only after a silence of `keepalive_time`. -/
theorem checkKeepalive_move (now : Int) :
    io.keepaliveView.Move now (io.checkKeepalive platform now).2.keepaliveView := by
  cases live : io.session.session with
  | false =>
      have same : (io.checkKeepalive platform now).2 = io := by
        rw [checkKeepalive, if_pos live]
      rw [same]
      exact .stays (.inl rfl)
  | true =>
      obtain ⟨clockEq, envEq, -⟩ := io.settle_spec
      have settled := io.session.keepaliveClock.settle_cases
      rw [← clockEq] at settled
      have stays : io.keepaliveView.Move now io.settle.keepaliveView :=
        move_of_same now (congrArg NgEnv.calls envEq) settled
      obtain ⟨timeEq, -, readEq, -⟩ := io.session.keepaliveClock.settle_timing
      rw [← clockEq] at readEq timeEq
      rw [io.checkKeepalive_eq platform now live]
      unfold checkSettled
      split_ifs with outstanding overdue gated idle
      · exact stays
      · exact stays
      · exact stays
      · have asked : (io.settle.submitPing platform now).2.env.heard = io.env.heard ∧
            (io.settle.submitPing platform now).2.env.asked = io.env.asked + 1 := by
          rw [← envEq]
          unfold submitPing setError NgEnv.submitPing NgEnv.heard NgEnv.asked
          simp only
          split_ifs <;> simp [NgEnv.log, NgCall.received?, NgCall.isPing]
        obtain ⟨accepted, refused⟩ := io.settle.submitPing_spec platform now
        by_cases taken : (takeAnswer 0 io.settle.env.submitPings).1 = 0
        · have clock := (accepted taken).2.1
          rw [clockEq, KeepaliveClock.settle_pinged] at clock
          unfold keepaliveView
          rw [asked.1, asked.2, clock]
          apply KeepaliveView.Move.pings
          change io.settle.session.keepaliveClock.time ≤
            now - io.settle.session.keepaliveClock.lastRead at idle
          rw [timeEq, readEq] at idle
          exact idle
        · have clock := (refused taken).2.1
          unfold keepaliveView
          rw [asked.1, asked.2, clock]
          exact .asks settled (Bool.eq_false_of_not_eq_true outstanding)
      · exact stays

/-- A check that finds the peer dead does so because of an unanswered PING. -/
theorem checkKeepalive_dead_cases {platform : Platform} {io : SessionIo Hook} {now : Int}
    (dead : (io.checkKeepalive platform now).1 = .dead) :
    io.session.keepaliveClock.Unanswered ∧
      io.session.keepaliveClock.timeout ≤ now - io.session.keepaliveClock.pingSent := by
  cases live : io.session.session with
  | false =>
      rw [checkKeepalive, if_pos live] at dead
      cases dead
  | true =>
      rcases io.checkKeepalive_cases platform now live with
        ⟨-, -, -, unanswered, overdue⟩ | ⟨sent, -⟩ | ⟨nothing, -⟩
      · exact ⟨unanswered, overdue⟩
      · cases dead.symm.trans sent
      · cases dead.symm.trans nothing

theorem consumeOutput_move (now : Int) (count : Nat) :
    io.keepaliveView.Move now
      ({ io with session := io.session.consumeOutput count } : SessionIo Hook).keepaliveView :=
  move_of_same now rfl (.inl rfl)

end SessionIo

/-! ## What the view of a session satisfies -/

namespace KeepaliveView

/-- An outstanding PING was queued after a silence of `keepalive_time`. -/
structure Timely (now : Int) (v : KeepaliveView) : Prop where
  sent : v.clock.pingOutstanding = true → v.clock.pingSent ≤ now
  idle : v.clock.pingOutstanding = true → v.clock.pingSent ≤ v.clock.lastRead ∨
    v.clock.time ≤ v.clock.pingSent - v.clock.lastRead

theorem Timely.stays {now : Int} {v : KeepaliveView} (timely : v.Timely now)
    {clock : KeepaliveClock} (same : clock = v.clock ∨ clock = v.clock.acked)
    (heard : Bytes) (asked : Nat) : Timely now ⟨clock, heard, asked⟩ := by
  rcases same with rfl | rfl
  · exact ⟨timely.sent, timely.idle⟩
  · constructor <;> simp [KeepaliveClock.acked]

theorem Timely.invariant : Invariant Timely where
  later := by
    intro now now' v timely later
    exact ⟨fun outstanding => (timely.sent outstanding).trans later, timely.idle⟩
  move := by
    intro now v v' timely move
    cases move with
    | stays same => exact timely.stays same _ _
    | reads heard read =>
        rcases read with rfl | rfl
        · exact ⟨timely.sent, fun outstanding => .inl (timely.sent outstanding)⟩
        · constructor <;> simp [KeepaliveClock.acked]
    | pings idle => exact ⟨fun _ => le_rfl, fun _ => .inr idle⟩
    | asks same _ => exact timely.stays same _ _

/-- The view of a session since it was `first`, at a given time. -/
structure Since (since : Int) (first : KeepaliveView) (now : Int) (v : KeepaliveView) :
    Prop where
  timely : v.Timely now
  later : since ≤ now
  asked : first.asked ≤ v.asked
  heard : v.heard ≠ first.heard → since ≤ v.clock.lastRead
  pinged : first.asked < v.asked → v.clock.pingOutstanding = true → since ≤ v.clock.pingSent
  /-- Bytes that came since answer every PING but one that came later. -/
  answered : v.heard ≠ first.heard → v.clock.pingOutstanding = true →
    v.clock.pingSent ≤ v.clock.lastRead ∨ first.asked < v.asked

variable {since : Int} {first : KeepaliveView}

theorem Since.move {now : Int} {v v' : KeepaliveView} (here : Since since first now v)
    (move : v.Move now v') : Since since first now v' := by
  have timely := Timely.invariant.move here.timely move
  cases move with
  | stays same =>
      rcases same with rfl | rfl
      · exact { here with timely }
      · exact ⟨timely, here.later, here.asked, here.heard, by simp [KeepaliveClock.acked],
          by simp [KeepaliveClock.acked]⟩
  | reads heard read =>
      rcases read with rfl | rfl
      · exact ⟨timely, here.later, here.asked, fun _ => here.later, here.pinged,
          fun _ outstanding => .inl (here.timely.sent outstanding)⟩
      · exact ⟨timely, here.later, here.asked, fun _ => here.later,
          by simp [KeepaliveClock.acked], by simp [KeepaliveClock.acked]⟩
  | pings idle =>
      have more : first.asked < v.asked + 1 := Nat.lt_succ_of_le here.asked
      exact ⟨timely, here.later, more.le, here.heard, fun _ _ => here.later,
        fun _ _ => .inr more⟩
  | asks same settled =>
      have more : first.asked < v.asked + 1 := Nat.lt_succ_of_le here.asked
      refine ⟨timely, here.later, more.le, ?_, by simp [settled], by simp [settled]⟩
      rcases same with rfl | rfl
      · exact here.heard
      · exact here.heard

theorem Since.invariant : Invariant (Since since first) where
  later := fun here later =>
    { here with timely := Timely.invariant.later here.timely later
                later := here.later.trans later }
  move := Since.move

theorem Timely.since_self {now : Int} {v : KeepaliveView} (timely : v.Timely now) :
    Since now v now v :=
  ⟨timely, le_rfl, le_rfl, fun changed => absurd rfl changed,
    fun more => absurd more (lt_irrefl _), fun changed => absurd rfl changed⟩

end KeepaliveView

namespace World

open KeepaliveView

variable {platform : Platform} {config : ChannelConfig} {w w₁ w₂ : World}
  {good : Int → KeepaliveView → Prop}

/-! ## The view of a ready channel's session -/

/-- A ready channel whose session's view is good by now. -/
structure Watching (good : Int → KeepaliveView → Prop) (w : World) : Prop where
  state : w.state = .ready
  session : ∃ session, w.h2 = some session ∧
    good w.now (SessionIo.keepaliveView ⟨session, w.ng⟩)

/-- If the channel is ready, its session's view is good by now. -/
def Watched (good : Int → KeepaliveView → Prop) (w : World) : Prop :=
  w.state = .ready → w.Watching good

theorem watched_of_not_ready (notReady : w.state ≠ .ready) : w.Watched good :=
  fun ready => absurd ready notReady

theorem now_le_readClock (w : World) : w.now ≤ w.readClock.1 := by
  simp only [readClock]
  omega

theorem Watching.of_same {w' : World} (kept : Invariant good) (watching : w.Watching good)
    (state : w'.state = w.state) (h2 : w'.h2 = w.h2) (ng : w'.ng = w.ng)
    (later : w.now ≤ w'.now) : w'.Watching good := by
  obtain ⟨session, present, holds⟩ := watching.session
  refine ⟨state.trans watching.state, session, h2.trans present, ?_⟩
  rw [ng]
  exact kept.later holds later

theorem Watching.readClock (kept : Invariant good) (watching : w.Watching good) :
    w.readClock.2.Watching good :=
  watching.of_same kept rfl rfl rfl w.now_le_readClock

theorem Watching.onSession (kept : Invariant good) (watching : w.Watching good)
    {Answer : Type} {missing : Answer}
    {operation : SessionIo Nat → Answer × List (HookCall Nat) × SessionIo Nat}
    (moves : ∀ io : SessionIo Nat,
      io.keepaliveView.Move w.now (operation io).2.2.keepaliveView) :
    (w.onSession missing operation).2.Watching good := by
  obtain ⟨session, present, holds⟩ := watching.session
  rw [onSession_of_some present]
  exact ⟨watching.state, _, rfl, kept.move holds (moves _)⟩

theorem Watching.tearDown (watching : w.Watching good) (detail : Detail) :
    (w.tearDown detail).Watched good := by
  obtain ⟨session, present, -⟩ := watching.session
  have resolved : ∃ text, w.resolve detail = some text := by
    cases detail with
    | session => exact ⟨session.error, by simp [resolve, present]⟩
    | socket => exact ⟨_, rfl⟩
    | temporary text => exact ⟨text, rfl⟩
  obtain ⟨text, resolved⟩ := resolved
  apply watched_of_not_ready
  rw [(tearDown_spec (by simp [watching.state]) resolved).state]
  decide

theorem Watching.outputDrained (watching : w.Watching good) :
    w.outputDrained.Watched good := by
  obtain ⟨session, present, -⟩ := watching.session
  unfold World.outputDrained
  rw [peek_of_some present]
  simp only
  split_ifs
  · exact watching.tearDown .session
  · exact fun _ => watching

theorem Watching.flushInvariant (kept : Invariant good) :
    FlushInvariant platform (Watching good) (Watched good) where
  pendingOutput := fun watching =>
    watching.onSession kept fun io => io.pendingOutput_move platform _
  write := fun _ watching => watching.of_same kept rfl rfl rfl le_rfl
  consumeOutput := fun count watching =>
    watching.onSession kept fun io => io.consumeOutput_move _ count
  outputDrained := Watching.outputDrained
  tearDown := fun watching => watching.tearDown .socket
  leave := fun watching _ => watching

theorem Watched.flushOutput (kept : Invariant good) (watched : w.Watched good) :
    (w.flushOutput platform).Watched good := by
  by_cases ready : w.state = .ready
  · exact (Watching.flushInvariant kept).flushOutput (watched ready)
  · rw [flushOutput_of_not_ready ready]
    exact watched

theorem Watching.receiveBytes (kept : Invariant good) (watching : w.Watching good)
    (data : Bytes) : (w.receiveBytes platform data).2.Watching good :=
  (watching.readClock kept).onSession kept fun io =>
    io.receiveBytes_move platform w.readClock.1 data

theorem Watching.drainRound (kept : Invariant good) (watching : w.Watching good) :
    (drainRound platform w).Meets (Watching good) (Watched good) := by
  have got : (w.onSocket (TlsIo.read platform 16384)).2.Watching good :=
    watching.of_same kept rfl rfl rfl le_rfl
  unfold World.drainRound
  rw [if_neg (not_not.mpr watching.state)]
  simp only
  split
  · split_ifs
    · exact got.receiveBytes kept _
    · exact (got.receiveBytes kept _).tearDown .session
  · exact fun _ => got
  · exact fun _ => got
  · exact got.tearDown _
  · exact got.tearDown .socket

theorem Watching.drainReadable (kept : Invariant good) (watching : w.Watching good)
    (revents : Nat) : (w.drainReadable platform revents).Watched good := by
  unfold World.drainReadable
  split_ifs
  · exact (drainLoop platform).run_invariant (fun _ => Watching.drainRound kept) watching
  · exact fun _ => watching

theorem Watched.whenReady (watched : w.Watched good) {action : World → World}
    (acts : w.Watched good → (action w).Watched good) :
    (w.whenReady action).Watched good := by
  unfold World.whenReady
  split_ifs
  · exact acts watched
  · exact watched

theorem Watched.rearmKeepalive (kept : Invariant good) (watched : w.Watched good) :
    (w.rearmKeepalive platform).Watched good := by
  unfold World.rearmKeepalive
  split_ifs with off
  · exact watched
  · have watching := watched (not_not.mp fun notReady => off (.inl notReady))
    obtain ⟨session, present, -⟩ := watching.session
    have cancelled : w.cancelKeepaliveTimer.readClock.2.Watching good :=
      watching.of_same kept rfl rfl rfl w.now_le_readClock
    have here : w.cancelKeepaliveTimer.readClock.2.h2 = some session := present
    simp only
    rw [peek_of_some here]
    cases session.nextKeepaliveDeadline with
    | none => exact fun _ => cancelled
    | some due =>
        have again := (cancelled.readClock kept).readClock kept
        exact fun _ => again.of_same kept rfl rfl rfl le_rfl

theorem Watched.submitCall (kept : Invariant good) (watched : w.Watched good)
    (pc : PendingCall) : (w.submitCall platform config pc).Watched good := by
  by_cases ready : w.state = .ready
  · obtain ⟨session, present, holds⟩ := (watched ready).session
    obtain ⟨h2, ng, state, -⟩ := submitCall_frame platform config pc ready present
    have now : (w.submitCall platform config pc).now = w.now := by
      unfold World.submitCall
      rw [if_neg (by simp [ready, present]), onSessionQuietly_of_some present]
      simp only
      split_ifs
      · rw [peek_of_some rfl]
        rfl
      · rfl
    refine fun _ => ⟨state, _, h2, ?_⟩
    rw [now, ng]
    exact kept.move holds (SessionIo.submitUnaryRequest_move platform _ _ _ _ _)
  · unfold World.submitCall
    rw [if_pos (.inl ready)]
    exact watched_of_not_ready ready

theorem Watched.submitQueued (kept : Invariant good) (watched : w.Watched good)
    (pending : List PendingCall) :
    (pending.foldl (World.submitQueued platform config) w).Watched good := by
  induction pending generalizing w with
  | nil => exact watched
  | cons pc pending ih =>
      rw [List.foldl_cons]
      apply ih
      unfold World.submitQueued
      split_ifs with notReady
      · exact watched_of_not_ready notReady
      · exact watched.submitCall kept pc

theorem Watched.submitPending (kept : Invariant good) (watched : w.Watched good) :
    (w.submitPending platform config).Watched good := by
  have waiting : ({ w with pendingCalls := [] } : World).Watched good :=
    fun ready => (watched ready).of_same kept rfl rfl rfl le_rfl
  exact (waiting.submitQueued kept w.pendingCalls).whenReady (Watched.flushOutput kept)

theorem Watched.onKeepaliveTimer (kept : Invariant good) (watched : w.Watched good) :
    (w.onKeepaliveTimer platform).Watched good := by
  by_cases ready : w.state = .ready
  · obtain ⟨session, present, -⟩ := (watched ready).session
    have disarmed : ({ w with keepaliveTimer := 0 } : World).Watching good :=
      (watched ready).of_same kept rfl rfl rfl le_rfl
    have checked : (({ w with keepaliveTimer := 0 } : World).checkKeepalive
        platform).2.Watching good :=
      (disarmed.readClock kept).onSession kept fun io =>
        io.checkKeepalive_move platform w.readClock.1
    rw [onKeepaliveTimer_of_some ready present]
    split_ifs
    · exact checked.tearDown _
    · exact Watched.rearmKeepalive kept (Watched.flushOutput kept fun _ => checked)
  · unfold World.onKeepaliveTimer
    rw [if_pos (.inl ready)]
    exact watched_of_not_ready ready

theorem Live.step_watched (kept : Invariant good) (live : w.Live config [] [])
    (watched : w.Watched good) (event : ChannelEvent) :
    (w.step platform config event).Watched good := by
  have watching := watched live.state
  cases event with
  | newCall pc =>
      have admitted : (w.recordHandled pc.call).Watched good :=
        fun _ => watching.of_same kept rfl rfl rfl le_rfl
      rw [World.step, handleNewCall_of_ready live.state]
      exact (admitted.submitCall kept pc).flushOutput kept
  | runDue now =>
      have taken : ({ w with
          timers := (w.timers.takeDue platform.timerAlgorithms now).2 } : World).Watched
          good := fun _ => watching.of_same kept rfl rfl rfl le_rfl
      rw [World.step, World.runDue]
      rcases live.timers.takeDue platform.timerAlgorithms now with
        ⟨nothing, _⟩ | ⟨fired, _⟩
      · simp only [nothing]
        exact taken
      · simp only [fired]
        exact taken.onKeepaliveTimer kept
  | pollEvents =>
      rw [World.step, World.pollEvents, live.watch]
      split_ifs
      · exact watched
      · exact fun _ => watching.onSession kept fun io => io.wantWrite_move _
  | ready revents =>
      rw [World.step, World.onReady, live.watch]
      have drained : (w.drainReadable platform revents).Watched good :=
        watching.drainReadable kept revents
      exact (drained.whenReady (Watched.flushOutput kept)).whenReady
        (Watched.rearmKeepalive kept)
  | shutdown =>
      apply watched_of_not_ready
      simp [World.step, (Between.doShutdown (.inr (.inr (.inl live)))).1]

/-! ## Whole runs -/

theorem Connected.startSession_timely (connected : w.Connected config) :
    (w.startSession platform config).Watched Timely := by
  rcases connected.startSession_cases platform with ⟨failed, _⟩ | ⟨_, goesOn⟩
  · exact watched_of_not_ready (by simp [failed])
  · have fresh : (w.sessionReady platform config).Watched Timely := by
      refine fun _ => ⟨rfl, _, rfl, ?_⟩
      have noPing : (SessionIo.new platform config.options.http2 { onGoaway := true }
          w.readClock.1 w.readClock.2.ng : SessionIo Nat).session.pingOutstanding =
          false := by
        unfold SessionIo.new
        simp only
        split_ifs <;> rfl
      constructor <;> simp [SessionIo.keepaliveView, Http2Session.keepaliveClock, noPing]
    rw [goesOn]
    exact ((fresh.flushOutput Timely.invariant).rearmKeepalive
      Timely.invariant).submitPending Timely.invariant

theorem Watched.step_timely (watched : w.Watched Timely) (between : w.Between config)
    {event : ChannelEvent} (admits : w.Admits event) :
    (w.step platform config event).Watched Timely := by
  rcases between with idle | connecting | live | down
  · exact watched_of_not_ready (idle.step_not_ready admits)
  · rcases connecting.step_cases platform event with notReady | ⟨_, connected, starts⟩
    · exact watched_of_not_ready notReady
    · rw [starts]
      exact connected.startSession_timely
  · exact live.step_watched Timely.invariant watched event
  · exact watched_of_not_ready (down.step_not_ready admits)

theorem Reachable.timely (reachable : Reachable platform config w) : w.Watched Timely := by
  have both : w.Between config ∧ w.Watched Timely := by
    apply reachable.invariant (fun w => w.Between config ∧ w.Watched Timely)
    · intro start fresh
      refine ⟨fresh.between, fun ready => ?_⟩
      rcases fresh.channel with channel | channel <;> simp [channel] at ready
    · rintro before event ⟨between, watched⟩ admits
      exact ⟨(between.step admits).1, watched.step_timely between admits⟩
  exact both.2

/-- What holds of a ready channel's session is kept until the channel is no longer
ready. -/
theorem Reachable.watched_later (kept : Invariant good)
    (reachable : Reachable platform config w₁) (watching : w₁.Watching good)
    (later : Runs.Reach (step platform config) Admits (· = w₁) w₂) : w₂.Watched good := by
  have all : w₂.Between config ∧ 2 ≤ w₂.state.rank ∧ w₂.Watched good := by
    apply later.invariant fun w => w.Between config ∧ 2 ≤ w.state.rank ∧ w.Watched good
    · rintro start rfl
      refine ⟨reachable.between, ?_, fun _ => watching⟩
      rw [watching.state]
      decide
    · rintro before event ⟨between, late, watched⟩ admits
      obtain ⟨stillBetween, advances⟩ : before.Advances config
          (before.step platform config event) := between.step admits
      refine ⟨stillBetween, late.trans advances, ?_⟩
      rcases between with idle | connecting | live | down
      · rw [idle.state] at late
        exact absurd late (by decide)
      · rw [connecting.state] at late
        exact absurd late (by decide)
      · exact live.step_watched kept watched event
      · exact watched_of_not_ready (down.step_not_ready admits)
  exact all.2.2

/-! ## Giving up -/

/-- What the keepalive callback tells the calls when it gives the peer up. -/
def keepaliveTimeoutDetail : Detail :=
  .temporary (Bytes.ofString
    "keepalive timeout: no reads from server within keepalive_timeout")

theorem rearmKeepalive_tearDowns (w : World) :
    (w.rearmKeepalive platform).tearDowns = w.tearDowns := by
  unfold World.rearmKeepalive
  split_ifs with off
  · rfl
  · obtain ⟨session, present⟩ : ∃ session, w.h2 = some session :=
      Option.ne_none_iff_exists'.mp fun missing => off (.inr (by simp [missing]))
    have here : w.cancelKeepaliveTimer.readClock.2.h2 = some session := present
    simp only
    rw [peek_of_some here]
    cases session.nextKeepaliveDeadline with
    | none => rfl
    | some due => rfl

/-- No teardown so far was keepalive's. -/
def NotGivenUp (w : World) : Prop :=
  ∀ record ∈ w.tearDowns, record.detail ≠ keepaliveTimeoutDetail

section Flush

variable {held : List Nat} {queue : List PendingCall}

theorem Live.notGivenUp (live : w.Live config held queue) : w.NotGivenUp := by
  unfold NotGivenUp
  rw [live.tearDowns]
  exact List.forall_mem_nil _

theorem Live.tearDown_notGivenUp (live : w.Live config held queue) {detail : Detail}
    {text : Bytes} (resolved : w.resolve detail = some text)
    (other : detail ≠ keepaliveTimeoutDetail) : (w.tearDown detail).NotGivenUp := by
  unfold NotGivenUp
  rw [(tearDown_spec live.ongoing.ongoing resolved).tearDowns, live.tearDowns]
  intro record member
  rw [List.mem_singleton.mp member]
  exact other

theorem Live.outputDrained_notGivenUp (live : w.Live config held queue) :
    w.outputDrained.NotGivenUp := by
  obtain ⟨session, present, -⟩ := live.session
  have resolved : w.resolve .session = some session.error := by
    simp [resolve, present]
  unfold World.outputDrained
  rw [peek_of_some present]
  simp only
  split_ifs
  · exact live.tearDown_notGivenUp resolved (by decide)
  · exact live.notGivenUp

/-- A flush blames the session or the socket. -/
theorem Live.flushOutput_notGivenUp (live : w.Live config held queue) :
    (w.flushOutput platform).NotGivenUp := by
  have transfer : FlushInvariant platform (Live config held queue)
      (LiveOrFailed config held queue) := Live.transfer.flushInvariant
  have flush : FlushInvariant platform (Live config held queue) NotGivenUp :=
    { pendingOutput := transfer.pendingOutput
      write := transfer.write
      consumeOutput := transfer.consumeOutput
      outputDrained := Live.outputDrained_notGivenUp
      tearDown := fun live => live.tearDown_notGivenUp rfl (by decide)
      leave := Live.notGivenUp }
  exact flush.flushOutput live

end Flush

/-- Only a check that finds the peer dead makes a channel give up. -/
theorem Live.checkKeepalive_dead (live : w.Live config [] [])
    {session : Http2Session Nat} (present : w.h2 = some session) {now : Int}
    {record : TearDownCall}
    (torn : record ∈ (w.step platform config (.runDue now)).tearDowns)
    (gaveUp : record.detail = keepaliveTimeoutDetail) :
    (SessionIo.checkKeepalive platform w.readClock.1 ⟨session, w.ng⟩).1 = .dead := by
  rw [World.step, World.runDue] at torn
  rcases live.timers.takeDue platform.timerAlgorithms now with
    ⟨nothing, _⟩ | ⟨fired, _, noOther⟩
  · simp only [nothing, live.tearDowns] at torn
    cases torn
  · simp only [fired] at torn
    -- The callback runs after its timer was taken off the heap.
    let taken : World :=
      { w with timers := (w.timers.takeDue platform.timerAlgorithms now).2 }
    have disarmed : ({ taken with keepaliveTimer := 0 } : World).Live config [] [] :=
      { live with timers := TimerHeap.only_zero noOther _ }
    have checked : (({ taken with keepaliveTimer := 0 } : World).checkKeepalive
        platform).2.Live config [] [] := Live.transfer.checkKeepalive disarmed
    have atCheck : ({ taken with keepaliveTimer := 0 } : World).readClock.2.h2 =
        some session := present
    have answer : (({ taken with keepaliveTimer := 0 } : World).checkKeepalive platform).1 =
        (SessionIo.checkKeepalive platform w.readClock.1 ⟨session, w.ng⟩).1 :=
      congrArg Prod.fst (onSessionQuietly_of_some atCheck)
    change record ∈ (taken.onKeepaliveTimer platform).tearDowns at torn
    have ready : taken.state = .ready := live.state
    have here : taken.h2 = some session := present
    rw [onKeepaliveTimer_of_some ready here, answer] at torn
    by_contra alive
    rw [if_neg alive, rearmKeepalive_tearDowns] at torn
    exact checked.flushOutput_notGivenUp record torn gaveUp

/-! ## The result -/

/-- A channel gives up on a silent peer only.  When the keepalive callback tears a
channel down at a time `T`, then since any earlier moment of the connection that is
less than `keepalive_time` and `keepalive_timeout` before `T`, nghttp2 was given no
byte; the PING that went unanswered is at least a `keepalive_timeout` old; and if
any bytes came since that moment, the PING was asked for after it. -/
theorem keepalive_gives_up_after_silence (reachable : Reachable platform config w₁)
    (ready : w₁.state = .ready)
    (later : Runs.Reach (step platform config) Admits (· = w₁) w₂)
    (stillReady : w₂.state = .ready) {now : Int} {record : TearDownCall}
    (torn : record ∈ (w₂.step platform config (.runDue now)).tearDowns)
    (gaveUp : record.detail = keepaliveTimeoutDetail) :
    let elapsed := w₂.readClock.1 - w₁.now
    let time := milliseconds config.options.http2.keepaliveTime
    let timeout := milliseconds config.options.http2.keepaliveTimeout
    (elapsed < time + timeout → w₂.ng.heard = w₁.ng.heard) ∧
      (elapsed < timeout → w₂.ng.asked = w₁.ng.asked) ∧
      (w₂.ng.heard ≠ w₁.ng.heard → w₁.ng.asked < w₂.ng.asked) := by
  intro elapsed time timeout
  have reachable₂ : Reachable platform config w₂ := reachable.trans later
  have live : w₂.Live config [] [] := reachable₂.between.live stillReady
  obtain ⟨session₁, present₁, timely⟩ := (reachable.timely ready).session
  have started : w₁.Watching (Since w₁.now (SessionIo.keepaliveView ⟨session₁, w₁.ng⟩)) :=
    ⟨ready, session₁, present₁, timely.since_self⟩
  obtain ⟨session, present, since⟩ :=
    (reachable.watched_later Since.invariant started later stillReady).session
  obtain ⟨session', present', options⟩ := (reachable₂.configured stillReady).session
  cases present.symm.trans present'
  have dead := live.checkKeepalive_dead present torn gaveUp
  obtain ⟨unanswered, late⟩ := SessionIo.checkKeepalive_dead_cases dead
  have timeEq : session.keepaliveClock.time = time :=
    congrArg (fun o : Http2SessionOptions => milliseconds o.keepaliveTime) options
  have timeoutEq : session.keepaliveClock.timeout = timeout :=
    congrArg (fun o : Http2SessionOptions => milliseconds o.keepaliveTimeout) options
  have outstanding := unanswered.1
  have unread : ¬ session.keepaliveClock.pingSent ≤ session.keepaliveClock.lastRead :=
    not_le.mpr unanswered.2
  have idle : time ≤ session.keepaliveClock.pingSent - session.keepaliveClock.lastRead :=
    timeEq ▸ (since.timely.idle outstanding).resolve_left unread
  have overdue : timeout ≤ w₂.readClock.1 - session.keepaliveClock.pingSent :=
    timeoutEq ▸ late
  refine ⟨?_, ?_, ?_⟩
  · intro recent
    by_contra changed
    have read : w₁.now ≤ session.keepaliveClock.lastRead := since.heard changed
    omega
  · intro recent
    by_contra changed
    have more : w₁.ng.asked < w₂.ng.asked :=
      lt_of_le_of_ne since.asked (Ne.symm changed)
    have sent : w₁.now ≤ session.keepaliveClock.pingSent := since.pinged more outstanding
    omega
  · intro changed
    exact (since.answered changed outstanding).resolve_left unread

/-- A channel that reads one byte, asks for a PING a millisecond later, and hears
nothing for the twenty seconds that follow. -/
def silentStart : World :=
  { sampleStart with
    tls := { handshakes := [.done (Bytes.ofString "h2")], reads := [.ok [0]] }
    ticks := [0, 0, 0, 0, 0, 2000000, 1000000, 0, 0, 0, 20000000000] }

def silentReady : World :=
  (silentStart.step silentPlatform rearmConfig (.newCall { call := 0 })).step silentPlatform
    rearmConfig (.ready POLLOUT)

def silentPinged : World :=
  (silentReady.step silentPlatform rearmConfig (.ready POLLIN)).step silentPlatform
    rearmConfig (.runDue 3000000)

theorem silentPinged_gives_up :
    silentReady.now + 20001000000 ≤ silentPinged.readClock.1 ∧
      silentReady.ng.asked < silentPinged.ng.asked := by
  have fresh : silentStart.Fresh rearmConfig :=
    sampleStart_fresh rearmConfig rfl _ rfl _
  have reachable : Reachable silentPlatform rearmConfig silentReady :=
    .next (.next (.start fresh) List.not_mem_nil) trivial
  have later : Runs.Reach (step silentPlatform rearmConfig) Admits (· = silentReady)
      silentPinged := .next (.next (.start rfl) trivial) trivial
  have changed : silentPinged.ng.heard ≠ silentReady.ng.heard := by decide
  obtain ⟨heard, -, asked⟩ := @keepalive_gives_up_after_silence silentPlatform rearmConfig
    silentReady silentPinged reachable (by decide) later (by decide) 20003000000
    ⟨keepaliveTimeoutDetail, some (Bytes.ofString
      "keepalive timeout: no reads from server within keepalive_timeout"), [0], []⟩
    (by decide) rfl
  refine ⟨?_, asked changed⟩
  by_contra early
  exact changed (heard (by
    change silentPinged.readClock.1 - silentReady.now < 20001000000
    omega))

end World

end Egrpc
