import Egrpc.ChannelResults
import Egrpc.ShutdownMutex

/-!
# What callers get

Any number of threads call `UnaryCall` and `Shutdown` while the loop runs.  Whatever
they do, in whatever order, the world below them only makes progress: a callback of
the channel, a look at the clock, or a call that its own thread fails after the
shutdown.  So the transport of the process stays a reachable one, a call that is done
stays as it is, and each caller gets a failure of the channel or the response to its
own request.
-/

namespace Egrpc

/-! ## A call that is done stays as it is -/

namespace CallTable

theorem deliver_calls_of_closed {table : CallTable} {call : Nat}
    (closed : (table.calls call).state = .closed) (other : Nat) (event : CallEvent) :
    (table.deliver other event).calls call = table.calls call := by
  by_cases same : call = other
  · subst same
    rw [World.deliver_of_closed closed]
  · exact Function.update_of_ne same ..

theorem hook_calls_of_closed {table : CallTable} {call : Nat}
    (closed : (table.calls call).state = .closed) (hookCall : HookCall Nat) :
    (table.hook hookCall).calls call = table.calls call := by
  cases hookCall with
  | responseHeaders | trailers | data | close => exact deliver_calls_of_closed closed ..
  | remoteSettings | settingsAck | pingAck | goaway => rfl

theorem hooks_calls_of_closed {table : CallTable} {call : Nat}
    (closed : (table.calls call).state = .closed) (hookCalls : List (HookCall Nat)) :
    (table.hooks hookCalls).calls call = table.calls call := by
  induction hookCalls generalizing table with
  | nil => rfl
  | cons hookCall hookCalls ih =>
      have first := hook_calls_of_closed closed hookCall
      exact (ih (first ▸ closed)).trans first

end CallTable

namespace Transport

variable {platform : Platform} {config : ChannelConfig} {t : Transport} {call : Nat}

theorem send_calls_of_closed (closed : (t.table.calls call).state = .closed) :
    (t.send platform).table.calls call = t.table.calls call := by
  cases present : t.h2 with
  | none =>
      have same : t.send platform = t := by simp only [Transport.send, present]
      rw [same]
  | some session =>
      have listened := CallTable.hooks_calls_of_closed closed
        (SessionIo.pendingOutput platform ⟨session, t.ng⟩).2.1
      rcases send_cases platform present with nothing | ⟨data, _, ⟨-, blocked⟩ | written⟩
      · rw [nothing]
        exact listened
      · rw [blocked]
        exact listened
      · rw [written]
        exact listened

theorem receive_calls_of_closed (closed : (t.table.calls call).state = .closed)
    (now : Int) : (t.receive platform now).table.calls call = t.table.calls call := by
  cases present : t.h2 with
  | none => simp only [Transport.receive, Transport.feed, present, ite_self]
  | some session =>
      rcases receive_cases platform now present with ⟨_, fed⟩ | ⟨_, nothing⟩
      · rw [fed]
        exact CallTable.hooks_calls_of_closed closed _
      · rw [nothing]

theorem submit_calls_of_closed (closed : (t.table.calls call).state = .closed)
    (pc : PendingCall) :
    (t.submit platform config pc).table.calls call = t.table.calls call := by
  unfold Transport.submit
  split
  · rfl
  · simp only
    split_ifs
    · exact CallTable.deliver_calls_of_closed closed ..
    · exact CallTable.deliver_calls_of_closed closed ..

theorem onSession_table (operation : SessionIo Nat → SessionIo Nat) (t : Transport) :
    (t.onSession operation).table = t.table := by
  unfold Transport.onSession
  split <;> rfl

/-- No move touches a call that is closed. -/
theorem move_calls_of_closed (closed : (t.table.calls call).state = .closed)
    (action : Transport.Move) :
    (t.move platform config action).table.calls call = t.table.calls call := by
  cases action with
  | startConnect | continueConnect | openSession | close | release => rfl
  | submit pc => exact submit_calls_of_closed closed pc
  | checkKeepalive | wantWrite | terminate =>
      simp only [Transport.move, onSession_table]
  | send => exact send_calls_of_closed closed
  | receive now => exact receive_calls_of_closed closed now
  | failCall message other => exact CallTable.deliver_calls_of_closed closed ..

theorem ReachedFrom.calls_of_closed {t' : Transport}
    (reached : ReachedFrom platform config (· = t) t')
    (closed : (t.table.calls call).state = .closed) :
    t'.table.calls call = t.table.calls call := by
  refine Runs.Reach.invariant (fun t' => t'.table.calls call = t.table.calls call) ?_ ?_
    reached.1
  · rintro _ rfl
    rfl
  · intro t' action same _
    exact (move_calls_of_closed (same ▸ closed) action).trans same

end Transport

namespace World

variable {platform : Platform} {config : ChannelConfig} {start : Transport → Prop}
  {w w' : World} {posted posts : List PendingCall}

/-- A call whose caller may return is closed. -/
theorem Tracked.closed_of_wait {tls : TlsEnv} {ng : NgEnv}
    (tracked : w.Tracked platform config (Transport.Fresh config tls ng) posted) {call : Nat}
    {result : CallState.Result} (waited : (w.calls call).wait = some result) :
    (w.calls call).state = .closed := by
  obtain ⟨record, ⟨reach, _⟩, _⟩ := tracked.transport
  have reached : Transport.Reachable platform config tls ng
      (w.transport w.state.phase record) := reach
  obtain ⟨history, isHistory, _⟩ := reached.replied.told call
  have state : w.calls call = _ := isHistory
  have done : (w.calls call).done = true := by
    unfold CallState.wait at waited
    split_ifs at waited with done
    exact done
  rw [state] at done ⊢
  exact (CallState.handleAll_consistent (by simp [CallState.new]) history).mp done

theorem Tracked.step_calls_of_closed (tracked : w.Tracked platform config start posted)
    (between : w.Between config)
    (handled : ∀ call ∈ posted.map PendingCall.call, call ∈ w.handled)
    {event : ChannelEvent} (admits : w.Admits event) {call : Nat}
    (closed : (w.calls call).state = .closed) :
    (w.step platform config event).calls call = w.calls call := by
  obtain ⟨record, _, _, _, here⟩ := tracked.fromHere
  obtain ⟨record', reached, _⟩ := (here.step between handled admits).transport
  exact reached.calls_of_closed closed

/-! ## Progress -/

/-- Two worlds that differ in the clock, the timers and the wakeup only. -/
structure Alike (w w' : World) : Prop where
  state : w'.state = w.state
  pendingCalls : w'.pendingCalls = w.pendingCalls
  handled : w'.handled = w.handled
  transport : ∀ phase record, w'.transport phase record = w.transport phase record

theorem Alike.rfl : w.Alike w :=
  ⟨Eq.refl _, Eq.refl _, Eq.refl _, fun _ _ => Eq.refl _⟩

/-- What one step of a thread does to the world, and the calls it hands to the
channel. -/
inductive Progress (platform : Platform) (config : ChannelConfig) (w : World) :
    List PendingCall → World → Prop
  | same {w' : World} (alike : w.Alike w') : Progress platform config w [] w'
  | callback {w' : World} (event : ChannelEvent) (admits : w.Admits event)
      (alike : (w.step platform config event).Alike w') :
      Progress platform config w event.posts w'
  /-- A caller whose operation was refused fails its call itself. -/
  | refuse (call : Nat) (message : Bytes) (shut : w.state = .shutdown) :
      Progress platform config w [] ((w.recordHandled call).failCall message call)

theorem Tracked.progress (tracked : w.Tracked platform config start posted)
    (between : w.Between config)
    (handled : ∀ call ∈ posted.map PendingCall.call, call ∈ w.handled)
    (progress : w.Progress platform config posts w') :
    w'.Tracked platform config start (posted ++ posts) ∧
      (∀ call ∈ (posted ++ posts).map PendingCall.call, call ∈ w'.handled) ∧
      ∀ call, (w.calls call).state = .closed → w'.calls call = w.calls call := by
  cases progress with
  | same alike =>
      rw [List.append_nil, alike.handled]
      refine ⟨tracked.same alike.state alike.pendingCalls alike.transport, handled, ?_⟩
      intro call _
      exact congrFun (congrArg (·.table.calls) (alike.transport .unused {})) call
  | callback event admits alike =>
      have next := tracked.step between handled admits
      refine ⟨next.same alike.state alike.pendingCalls alike.transport, ?_, ?_⟩
      · intro call member
        rw [alike.handled, step_handled, ← posts_handles]
        rw [List.map_append] at member
        rcases List.mem_append.mp member with old | new
        · exact List.mem_append_left _ (handled call old)
        · exact List.mem_append_right _ new
      · intro call closed
        have alikeCall : w'.calls call = (w.step platform config event).calls call :=
          congrFun (congrArg (·.table.calls) (alike.transport .unused {})) call
        exact alikeCall.trans (tracked.step_calls_of_closed between handled admits closed)
  | refuse call message shut =>
      rw [List.append_nil]
      refine ⟨?_, fun other member => List.mem_append_left _ (handled other member), ?_⟩
      · rcases tracked with ⟨ongoing, _⟩ | ⟨_, gone⟩
        · exact absurd shut ongoing.2
        · have recorded : (w.recordHandled call).Gone platform config start posted :=
            gone.same fun _ _ => Eq.refl _
          exact .inr ⟨.inr shut, recorded.failCall message call⟩
      · intro other closed
        exact @CallTable.deliver_calls_of_closed w.table other closed call _

end World

/-! ## The process -/

namespace ChannelProcess

variable {platform : Platform} {config : ChannelConfig} {p p₀ : ChannelProcess}

/-- A call that its thread asked for when it called `UnaryCall`. -/
def Requested (config : ChannelConfig) (p₀ : ChannelProcess) (pc : PendingCall) : Prop :=
  ∃ arguments, p₀.unaryCalls pc.call = .called arguments ∧
    arguments.check config pc.call = .post pc

/-- What a thread of a process that started as `p₀` has in hand. -/
def InHand (config : ChannelConfig) (p₀ : ChannelProcess) (w : World) (call : Nat) :
    UnaryCall → Prop
  | .called arguments => p₀.unaryCalls call = .called arguments
  | .post pc => Requested config p₀ pc
  | .rejected result => ∃ arguments, p₀.unaryCalls call = .called arguments ∧
      arguments.check config call = .rejected result
  | .returned result => (w.calls call).wait = some result
  | .notify | .failLocal | .wait => True

/-- The calls of a process come from its threads, and their results from its
channel. -/
structure Served (platform : Platform) (config : ChannelConfig) (p₀ p : ChannelProcess) :
    Prop where
  sound : p.Sound config
  tracked : ∃ posted,
    p.world.Tracked platform config
      (Transport.Fresh config p₀.world.tls p₀.world.ng) posted ∧
    (∀ call ∈ posted.map PendingCall.call, call ∈ p.world.handled) ∧
    ∀ pc ∈ posted, Requested config p₀ pc
  waiting : ∀ pc, .handleNewCall pc ∈ p.thread.waiting → Requested config p₀ pc
  threads : ∀ call, InHand config p₀ p.world call (p.unaryCalls call)

theorem Served.next (served : Served platform config p₀ p) {p' : ChannelProcess}
    (sound : p'.Sound config) {posts : List PendingCall}
    (progress : p.world.Progress platform config posts p'.world)
    (asked : ∀ pc ∈ posts, Requested config p₀ pc)
    (waiting : ∀ pc, .handleNewCall pc ∈ p'.thread.waiting →
      .handleNewCall pc ∈ p.thread.waiting ∨ Requested config p₀ pc)
    (threads : ∀ call, p'.unaryCalls call = p.unaryCalls call ∨
      InHand config p₀ p'.world call (p'.unaryCalls call)) :
    Served platform config p₀ p' := by
  obtain ⟨posted, tracked, handled, requested⟩ := served.tracked
  obtain ⟨tracked', handled', settled⟩ :=
    tracked.progress served.sound.between handled progress
  refine ⟨sound, ⟨posted ++ posts, tracked', handled', ?_⟩, ?_, ?_⟩
  · intro pc member
    rcases List.mem_append.mp member with old | new
    · exact requested pc old
    · exact asked pc new
  · intro pc member
    exact (waiting pc member).elim (served.waiting pc) id
  · intro call
    rcases threads call with same | inHand
    · have before := served.threads call
      rw [same]
      cases here : p.unaryCalls call with
      | returned result =>
          rw [here] at before
          have waited : (p.world.calls call).wait = some result := before
          change (p'.world.calls call).wait = some result
          rw [settled call (tracked.closed_of_wait waited)]
          exact waited
      | called | post | rejected | notify | failLocal | wait =>
          rw [here] at before
          exact before
    · exact inHand

/-! ## The loop -/

/-- What a step of the loop does to the world and to the operations. -/
theorem Sound.loop_progress (sound : p.Sound config) (answer : PollAnswer) :
    ∃ posts, p.world.Progress platform config posts
        (p.step platform config (.loop answer)).world ∧
      (∀ pc ∈ posts, .handleNewCall pc ∈ p.thread.waiting) ∧
      ∀ op ∈ (p.step platform config (.loop answer)).thread.waiting, op ∈ p.thread.waiting := by
  have queue (none : p.thread.loop.remaining = []) : p.thread.waiting = p.thread.ops := by
    rw [EventThread.waiting, none]
    rfl
  simp only [ChannelProcess.step, EventThread.step]
  cases loop : p.thread.loop with
  | runPendingOps =>
      refine ⟨[], .same .rfl, List.forall_mem_nil _, ?_⟩
      simp [EventThread.waiting, EventThread.swapOps, loop, Loop.remaining]
  | running ops stopping =>
      have here : p.thread.waiting = ops ++ p.thread.ops := by
        rw [EventThread.waiting, loop]
        rfl
      rw [here]
      cases ops with
      | cons op ops =>
          cases op with
          | handleNewCall pc =>
              refine ⟨[pc], .callback (.newCall pc) (sound.isNew loop) .rfl, ?_,
                fun op member => List.mem_cons_of_mem _ member⟩
              intro pc' member
              rw [List.mem_singleton.mp member]
              exact List.mem_cons_self
          | doShutdown shutdown =>
              exact ⟨[], .callback .shutdown trivial .rfl, List.forall_mem_nil _,
                fun op member => List.mem_cons_of_mem _ member⟩
      | nil =>
          cases stopping with
          | true => exact ⟨[], .same .rfl, List.forall_mem_nil _, fun op member => member⟩
          | false =>
              exact ⟨[], .same ⟨rfl, rfl, rfl, fun _ _ => rfl⟩, List.forall_mem_nil _,
                fun op member => member⟩
  | runDue now =>
      rw [queue (by rw [loop]; rfl)]
      refine ⟨[], .callback (.runDue now) trivial .rfl, List.forall_mem_nil _, ?_⟩
      intro op member
      simp only [EventThread.waiting] at member
      split_ifs at member <;> exact member
  | preparePoll =>
      rw [queue (by rw [loop]; rfl)]
      exact ⟨[], .callback .pollEvents trivial ⟨rfl, rfl, rfl, fun _ _ => rfl⟩,
        List.forall_mem_nil _, fun op member => member⟩
  | poll events timeoutMs =>
      rw [queue (by rw [loop]; rfl)]
      cases answer with
      | interrupted | failed | returned =>
          exact ⟨[], .same .rfl, List.forall_mem_nil _, fun op member => member⟩
  | drain watching wakeup socket =>
      rw [queue (by rw [loop]; rfl)]
      exact ⟨[], .same .rfl, List.forall_mem_nil _, fun op member => member⟩
  | dispatch watching socket =>
      rw [queue (by rw [loop]; rfl)]
      simp only
      split_ifs
      · exact ⟨[], .callback (.ready socket) trivial .rfl, List.forall_mem_nil _,
          fun op member => member⟩
      · exact ⟨[], .same .rfl, List.forall_mem_nil _, fun op member => member⟩
  | exited =>
      exact ⟨[], .same .rfl, List.forall_mem_nil _, fun op member => member⟩

theorem Served.stepLoop (served : Served platform config p₀ p) {answer : PollAnswer}
    (sane : answer ≠ .failed) :
    Served platform config p₀ (p.step platform config (.loop answer)) := by
  obtain ⟨posts, progress, taken, fewer⟩ :=
    @Sound.loop_progress platform config p served.sound answer
  exact served.next (served.sound.stepLoop sane) progress
    (fun pc member => served.waiting pc (taken pc member))
    (fun pc member => .inl (fewer _ member)) fun _ => .inl rfl

/-! ## The other threads -/

theorem stepShutdown_waiting (shutdown : Nat) {pc : PendingCall}
    (member : .handleNewCall pc ∈ (p.stepShutdown shutdown).thread.waiting) :
    .handleNewCall pc ∈ p.thread.waiting := by
  unfold ChannelProcess.stepShutdown at member
  cases at' : p.shutdowns shutdown with
  | called | join =>
      simp only [at'] at member
      split at member <;> exact member
  | locked | wait | stopNotify =>
      simp only [at'] at member
      split_ifs at member <;> exact member
  | post =>
      simp only [at'] at member
      cases stop : p.thread.stopRequested with
      | true =>
          rw [EventThread.post_of_stopped stop] at member
          exact member
      | false =>
          rw [EventThread.post_of_running stop] at member
          simpa [EventThread.waiting, ChannelProcess.setShutdown] using member
  | stop =>
      obtain ⟨joined, requested⟩ := p.thread.requestStop_eq
      simp only [at'] at member
      rw [requested] at member
      exact member
  | notify | returned =>
      simp only [at'] at member
      exact member

theorem Served.stepShutdown (served : Served platform config p₀ p) (shutdown : Nat) :
    Served platform config p₀ (p.stepShutdown shutdown) := by
  have same : p.world.Progress platform config [] (p.stepShutdown shutdown).world := by
    rw [stepShutdown_world]
    exact .same .rfl
  refine served.next (served.sound.stepShutdown shutdown) same nofun
    (fun pc member => .inl (stepShutdown_waiting shutdown member)) fun call => .inl ?_
  rw [stepShutdown_unaryCalls]

theorem threads_update {w : World} {call : Nat} {unaryCall : UnaryCall}
    (inHand : InHand config p₀ w call unaryCall) (other : Nat) :
    Function.update p.unaryCalls call unaryCall other = p.unaryCalls other ∨
      InHand config p₀ w other (Function.update p.unaryCalls call unaryCall other) := by
  by_cases same : other = call
  · subst same
    rw [Function.update_self]
    exact .inr inHand
  · exact .inl (Function.update_of_ne same ..)

theorem Served.stepUnaryCall (served : Served platform config p₀ p) (call : Nat) :
    Served platform config p₀ (p.stepUnaryCall config call) := by
  have sound := served.sound.stepUnaryCall call
  have before := served.threads call
  unfold ChannelProcess.stepUnaryCall at sound ⊢
  cases here : p.unaryCalls call with
  | called arguments =>
      rw [here] at sound before
      refine served.next sound (.same .rfl) nofun (fun pc member => .inl member)
        (threads_update ?_)
      rcases arguments.check_spec config call with ⟨-, result, rejected, -⟩ | ⟨-, posts⟩
      · rw [rejected]
        exact ⟨arguments, before, rejected⟩
      · rw [posts]
        exact ⟨arguments, before, posts⟩
  | post pc =>
      rw [here] at sound before
      simp only at sound ⊢
      rw [if_neg (by simp [served.sound.loopOk])] at sound ⊢
      cases stop : p.thread.stopRequested with
      | true =>
          rw [EventThread.post_of_stopped stop] at sound ⊢
          exact served.next sound (.same .rfl) nofun (fun pc member => .inl member)
            (threads_update trivial)
      | false =>
          rw [EventThread.post_of_running stop] at sound ⊢
          refine served.next sound (.same .rfl) nofun ?_ (threads_update trivial)
          intro other member
          have either : .handleNewCall other ∈ p.thread.waiting ∨ other = pc := by
            simpa [EventThread.waiting, ChannelProcess.setUnaryCall, or_assoc] using member
          rcases either with old | rfl
          · exact .inl old
          · exact .inr before
  | notify =>
      rw [here] at sound
      exact served.next sound (.same .rfl) nofun (fun pc member => .inl member)
        (threads_update trivial)
  | failLocal =>
      rw [here] at sound
      exact served.next sound (.refuse call _ (served.sound.refused call here)) nofun
        (fun pc member => .inl member) (threads_update trivial)
  | wait =>
      rw [here] at sound
      simp only at sound ⊢
      split
      · exact served
      · rename_i result waited
        rw [waited] at sound
        exact served.next sound (.same .rfl) nofun (fun pc member => .inl member)
          (threads_update waited)
  | rejected | returned => exact served

theorem Served.step (served : Served platform config p₀ p) {action : ProcessAction}
    (admits : p.Admits action) :
    Served platform config p₀ (p.step platform config action) := by
  cases action with
  | unaryCall call => exact served.stepUnaryCall call
  | shutdown shutdown => exact served.stepShutdown shutdown
  | loop answer => exact served.stepLoop fun failed => admits (by rw [failed])

theorem Started.served (start : p.Started config) : Served platform config p p where
  sound := start.sound
  tracked := ⟨[], start.world.tracked, nofun, nofun⟩
  waiting := by simp [EventThread.waiting, start.loop, start.ops, Loop.remaining]
  threads := by
    intro call
    obtain ⟨arguments, isCalled⟩ := start.unaryCalls call
    rw [isCalled]
    exact isCalled

theorem Later.served (start : p₀.Started config) (later : Later platform config p₀ p) :
    Served platform config p₀ p := by
  refine Runs.Reach.invariant (Served platform config p₀) ?_
    (fun _ _ served admits => served.step admits) later
  rintro _ rfl
  exact start.served

/-- The call of a thread whose request is too large has no reply. -/
theorem Served.unanswered (served : Served platform config p₀ p) {call : Nat}
    {result : CallState.Result} (rejected : p.unaryCalls call = .rejected result)
    {posted : List PendingCall} (requested : ∀ pc ∈ posted, Requested config p₀ pc) :
    call ∉ posted.map PendingCall.call ∧ result.code = .resourceExhausted ∧
      result.response = [] ∧
      ∃ arguments, p₀.unaryCalls call = .called arguments ∧
        config.options.maxSendMessageSize < arguments.request.length := by
  have inHand := served.threads call
  rw [rejected] at inHand
  obtain ⟨arguments, called, isRejected⟩ := inHand
  obtain ⟨above, code, nothing⟩ := UnaryCallArguments.above_of_check isRejected
  refine ⟨?_, code, nothing, arguments, called, above⟩
  intro member
  obtain ⟨pc, isPosted, rfl⟩ := List.mem_map.mp member
  obtain ⟨_, called', posts⟩ := requested pc isPosted
  cases called.symm.trans called'
  cases isRejected.symm.trans posts

/-- For any number of threads in `UnaryCall` and in `Shutdown`, and every interleaving of
their steps with the loop: the transport of the process is a reachable one, and the
replies of different calls have different streams.  A call that was rejected had a
request above the limit and no stream.  A call that returned has failed as unavailable
without a response, or was answered: the request that its own thread framed was
submitted, nghttp2 issued the id of its stream and delivered under it every callback of
the reply, a handshake with the verified peer came before, and the reply decides the
result. -/
theorem callers_get_own_responses (start : p₀.Started config)
    (quiet : p₀.world.tls.calls = []) (later : Later platform config p₀ p) :
    ∃ record, Transport.Reachable platform config p₀.world.tls p₀.world.ng
        (p.world.transport p.world.state.phase record) ∧
      (∀ call call' reply reply', record.replies call = some reply →
        record.replies call' = some reply' → reply.streamId = reply'.streamId →
          call = call') ∧
      (∀ call result, p.unaryCalls call = .rejected result →
        result.code = .resourceExhausted ∧ result.response = [] ∧
          record.replies call = none ∧
          ∃ arguments, p₀.unaryCalls call = .called arguments ∧
            config.options.maxSendMessageSize < arguments.request.length) ∧
      ∀ call result, p.unaryCalls call = .returned result →
        (result.code = .unavailable ∧ result.response = []) ∨
        ∃ arguments pc, p₀.unaryCalls call = .called arguments ∧
          arguments.check config call = .post pc ∧ pc.call = call ∧
          p.world.Answers platform config record pc result := by
  have served : Served platform config p₀ p := Later.served start later
  obtain ⟨posted, tracked, _, requested⟩ := served.tracked
  obtain ⟨record, reached, replies, distinct, results⟩ := tracked.results quiet
  refine ⟨record, reached, distinct, ?_, ?_⟩
  · intro call result rejected
    obtain ⟨notPosted, code, nothing, above⟩ := served.unanswered rejected requested
    refine ⟨code, nothing, ?_, above⟩
    by_contra answered
    exact notPosted (replies call answered)
  · intro call result returned
    have waited := served.threads call
    rw [returned] at waited
    rcases results call result waited with unavailable | ⟨pc, member, rfl, answers⟩
    · exact .inl unavailable
    · obtain ⟨arguments, called, posts⟩ := requested pc member
      exact .inr ⟨arguments, pc, called, posts, rfl, answers⟩

/-- A channel that sends no more than four bytes in a message. -/
def limitedConfig : ChannelConfig :=
  { World.sampleConfig with options := { maxSendMessageSize := 4 } }

/-- A request of one byte, with a pair of metadata. -/
def sampleArguments : UnaryCallArguments where
  methodPath := Bytes.ofString "/pkg.Service/Method"
  request := [42]
  metadata := [(Bytes.ofString "key", Bytes.ofString "value")]

/-- Two threads are about to call, and any other with a request of five bytes; the peer
will reset the first stream and answer on the second. -/
def sampleCallers : ChannelProcess where
  thread :=
    { started := true
      owned :=
        { world :=
            { World.sampleTraffic with
              ng :=
                { submitRequests := [1, 3]
                  memRecvs := [{ callbacks := [.onDataChunkRecv 1 [0],
                    .onDataChunkRecv 3 [0, 0, 0, 0, 1, 7],
                    .onHeader true 3 (Bytes.ofString "grpc-status") (Bytes.ofString "0"),
                    .onFrameRecv (.headers 3 false true), .onStreamClose 1 2,
                    .onStreamClose 3 0] }]
                  fresh := by decide } } } }
  loopOk := true
  unaryCalls call :=
    .called (if call < 2 then sampleArguments
      else { sampleArguments with request := [42, 42, 42, 42, 42] })

/-- Call 1 is posted before call 0 and call 2 is rejected; the loop connects, submits
both and reads, and the callers return. -/
def sampleInterleaving : List ProcessAction :=
  [.unaryCall 0, .unaryCall 1, .unaryCall 1, .unaryCall 0, .loop .interrupted,
    .unaryCall 0, .loop .interrupted, .unaryCall 1, .loop .interrupted, .unaryCall 2,
    .loop .interrupted, .loop .interrupted, .loop .interrupted,
    .loop (.returned 0 POLLOUT), .loop .interrupted, .loop .interrupted,
    .loop .interrupted, .loop .interrupted, .loop .interrupted, .loop .interrupted,
    .loop (.returned 0 POLLIN), .loop .interrupted, .loop .interrupted, .unaryCall 0,
    .unaryCall 1]

def sampleReturned : ChannelProcess :=
  sampleInterleaving.foldl (step World.silentPlatform limitedConfig) sampleCallers

theorem sampleCallers_started : sampleCallers.Started limitedConfig :=
  started_of_fresh (World.sampleStart_fresh limitedConfig rfl _ rfl _)
    fun _ => ⟨_, rfl⟩

theorem sampleReturned_later :
    Later World.silentPlatform limitedConfig sampleCallers sampleReturned := by
  refine Runs.Reach.foldl ?_ (.start rfl)
  simp [sampleInterleaving, Admits]

theorem sampleReturned_responses :
    ∃ record, Transport.Reachable World.silentPlatform limitedConfig
        sampleCallers.world.tls sampleCallers.world.ng
        (sampleReturned.world.transport sampleReturned.world.state.phase record) ∧
      (∃ result pc, sampleReturned.unaryCalls 0 = .returned result ∧
        result.response = [7] ∧ sampleArguments.check limitedConfig 0 = .post pc ∧
        sampleReturned.world.Answers World.silentPlatform limitedConfig record pc
          result) ∧
      ∃ result, sampleReturned.unaryCalls 2 = .rejected result ∧
        result.code = .resourceExhausted ∧ record.replies 2 = none := by
  obtain ⟨record, reached, -, rejects, returns⟩ :=
    callers_get_own_responses sampleCallers_started rfl sampleReturned_later
  obtain ⟨result, returned, isResponse⟩ : ∃ result,
    sampleReturned.unaryCalls 0 = .returned result ∧ result.response = [7] := ⟨_, rfl, rfl⟩
  obtain ⟨refusal, rejected⟩ : ∃ result, sampleReturned.unaryCalls 2 = .rejected result :=
    ⟨_, rfl⟩
  obtain ⟨code, -, unanswered, -⟩ := rejects 2 refusal rejected
  refine ⟨record, reached, ?_, refusal, rejected, code, unanswered⟩
  rcases returns 0 result returned with ⟨-, nothing⟩ | ⟨arguments, pc, called, posts, -, answers⟩
  · cases isResponse.symm.trans nothing
  · cases called
    exact ⟨result, pc, returned, isResponse, posts, answers⟩

end ChannelProcess

end Egrpc
