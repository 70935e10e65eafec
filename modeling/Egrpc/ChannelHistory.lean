import Egrpc.ChannelFlush

/-!
# The history of handled calls

A world remembers the calls whose operation has run.  Only `HandleNewCall` adds
to that history, whatever else a callback does.
-/

namespace Egrpc

/-- The call whose operation a callback is. -/
def ChannelEvent.handles : ChannelEvent → List Nat
  | .newCall pc => [pc.call]
  | .runDue _ | .pollEvents | .ready _ | .shutdown => []

namespace World

variable {platform : Platform} {config : ChannelConfig}

@[simp]
theorem onSession_handled {Answer : Type} (missing : Answer)
    (operation : SessionIo Nat → Answer × List (HookCall Nat) × SessionIo Nat)
    (w : World) : (w.onSession missing operation).2.handled = w.handled := by
  unfold onSession
  split <;> rfl

@[simp]
theorem onSessionQuietly_handled {Answer : Type} (missing : Answer)
    (operation : SessionIo Nat → Answer × SessionIo Nat) (w : World) :
    (w.onSessionQuietly missing operation).2.handled = w.handled :=
  onSession_handled _ _ _

@[simp]
theorem peek_handled {Answer : Type} (missing : Answer)
    (query : Http2Session Nat → Answer) (w : World) :
    (w.peek missing query).2.handled = w.handled :=
  onSession_handled _ _ _

@[simp]
theorem readDetail_handled (detail : Detail) (w : World) :
    (w.readDetail detail).2.handled = w.handled := by
  unfold readDetail
  split <;> rfl

/-! ## Ending -/

theorem foldl_handled {Item : Type} {act : World → Item → World}
    (keeps : ∀ w item, (act w item).handled = w.handled) (items : List Item)
    (w : World) : (items.foldl act w).handled = w.handled := by
  induction items generalizing w with
  | nil => rfl
  | cons item items ih => rw [List.foldl_cons, ih, keeps]

theorem failAllCalls_handled {fail : World → Nat → World}
    (keeps : ∀ w call, (fail w call).handled = w.handled) (w : World) :
    (w.failAllCalls fail).handled = w.handled :=
  (foldl_handled keeps _ _).trans (foldl_handled keeps _ _)

@[simp]
theorem tearDown_handled (detail : Detail) (w : World) :
    (w.tearDown detail).handled = w.handled := by
  have recorded : (w.recordFailure detail).handled = w.handled :=
    readDetail_handled _ _
  have told (w : World) (call : Nat) :
      (w.failCallWith detail call).handled = w.handled :=
    readDetail_handled detail w
  unfold tearDown
  split_ifs
  · rfl
  · exact (failAllCalls_handled told _).trans recorded

/-! ## Moving bytes -/

theorem outputDrained_handled (w : World) :
    w.outputDrained.handled = w.handled := by
  unfold outputDrained
  simp only
  split_ifs <;> simp

theorem flushInvariant_handled (handled : List Nat) :
    FlushInvariant platform (fun w => w.handled = handled)
      fun w => w.handled = handled where
  pendingOutput := (onSession_handled _ _ _).trans
  write := fun _ same => same
  consumeOutput := fun _ => (onSession_handled _ _ _).trans
  outputDrained := (outputDrained_handled _).trans
  tearDown := (tearDown_handled _ _).trans
  leave := fun same => same

@[simp]
theorem flushOutput_handled (w : World) :
    (w.flushOutput platform).handled = w.handled :=
  (flushInvariant_handled w.handled).flushOutput rfl

theorem drainRound_handled {handled : List Nat} {w : World}
    (same : w.handled = handled) :
    (drainRound platform w).Meets (fun w => w.handled = handled)
      fun w => w.handled = handled := by
  have received (data : Bytes) : (receiveBytes platform data
      (w.onSocket (TlsIo.read platform 16384)).2).2.handled = handled :=
    (onSession_handled _ _ _).trans same
  unfold drainRound
  split_ifs
  · exact same
  · simp only
    split
    · split_ifs
      · exact received _
      · exact (tearDown_handled _ _).trans (received _)
    · exact same
    · exact same
    · exact (tearDown_handled _ _).trans same
    · exact (tearDown_handled _ _).trans same

@[simp]
theorem drainReadable_handled (revents : Nat) (w : World) :
    (w.drainReadable platform revents).handled = w.handled := by
  unfold drainReadable
  split_ifs
  · exact (drainLoop platform).run_invariant (fun _ => drainRound_handled) rfl
  · rfl

theorem farewellRound_handled {handled : List Nat} {w : World}
    (same : w.handled = handled) :
    (farewellRound platform w).Meets (fun w => w.handled = handled)
      fun w => w.handled = handled := by
  have output : (w.pendingOutput platform).2.handled = handled :=
    (onSession_handled _ _ _).trans same
  unfold farewellRound
  simp only
  split
  · exact output
  · exact output
  · split_ifs
    · exact output
    · exact (onSession_handled _ _ _).trans output

theorem whenReady_handled {action : World → World}
    (keeps : ∀ w, (action w).handled = w.handled) (w : World) :
    (w.whenReady action).handled = w.handled := by
  unfold whenReady
  split_ifs
  · exact keeps w
  · rfl

/-! ## Handlers -/

@[simp]
theorem rearmKeepalive_handled (w : World) :
    (w.rearmKeepalive platform).handled = w.handled := by
  unfold rearmKeepalive
  split_ifs
  · rfl
  · simp only
    split <;> exact onSession_handled _ _ _

theorem onKeepaliveTimer_handled (w : World) :
    (w.onKeepaliveTimer platform).handled = w.handled := by
  have checked (w : World) : (w.checkKeepalive platform).2.handled = w.handled :=
    onSession_handled _ _ _
  unfold onKeepaliveTimer
  simp only
  split_ifs
  · rfl
  · split <;> simp [checked]

@[simp]
theorem submitCall_handled (w : World) (pc : PendingCall) :
    (w.submitCall platform config pc).handled = w.handled := by
  unfold submitCall
  simp only
  split_ifs
  · rfl
  · rfl
  · exact (peek_handled _ _ _).trans (onSessionQuietly_handled _ _ _)
  · exact onSessionQuietly_handled _ _ _

theorem submitQueued_handled (w : World) (pc : PendingCall) :
    (w.submitQueued platform config pc).handled = w.handled := by
  unfold submitQueued
  split_ifs
  · rfl
  · exact submitCall_handled w pc

theorem startConnecting_handled (w : World) :
    (w.startConnecting platform config).handled = w.handled := by
  unfold startConnecting
  simp only
  split_ifs
  · exact tearDown_handled _ _
  · rfl

theorem startSession_handled (w : World) :
    (w.startSession platform config).handled = w.handled := by
  have created : ((w.createSession platform config).peek false
      Http2Session.session).2.handled = w.handled := peek_handled _ _ _
  have entered (w : World) : (w.enterReady platform).handled = w.handled :=
    (rearmKeepalive_handled _).trans (flushOutput_handled _)
  have submitted (w : World) :
      (w.submitPending platform config).handled = w.handled :=
    (whenReady_handled flushOutput_handled _).trans
      (foldl_handled submitQueued_handled _ _)
  unfold startSession
  simp only
  split_ifs
  · exact (tearDown_handled _ _).trans created
  · exact ((submitted _).trans (entered _)).trans created

theorem onConnectProgress_handled (w : World) :
    (w.onConnectProgress platform config).handled = w.handled := by
  unfold onConnectProgress
  simp only
  split
  · rfl
  · rfl
  · exact startSession_handled _
  · exact tearDown_handled _ _
  · exact tearDown_handled _ _

theorem onReady_handled (revents : Nat) (w : World) :
    (w.onReady platform config revents).handled = w.handled := by
  unfold onReady
  split
  · rfl
  · exact onConnectProgress_handled w
  · exact ((whenReady_handled rearmKeepalive_handled _).trans
      (whenReady_handled flushOutput_handled _)).trans (drainReadable_handled _ _)

theorem runDue_handled (now : Int) (w : World) :
    (w.runDue platform now).handled = w.handled := by
  unfold runDue
  simp only
  split
  · rfl
  · exact tearDown_handled _ _
  · exact onKeepaliveTimer_handled _

theorem pollEvents_handled (w : World) : w.pollEvents.2.handled = w.handled := by
  unfold pollEvents
  split_ifs
  · rfl
  · split
    · rfl
    · rfl
    · exact onSessionQuietly_handled _ _ _

theorem doShutdown_handled (w : World) :
    (w.doShutdown platform).handled = w.handled := by
  have told (w : World) (call : Nat) : (w.failCall (Bytes.ofString
      "channel is shut down") call).handled = w.handled := rfl
  have begun : w.beginShutdown.handled = w.handled := failAllCalls_handled told _
  have closed : (w.beginShutdown.closeGracefully platform).handled = w.handled :=
    (farewellLoop platform).run_invariant (fun _ => farewellRound_handled)
      ((onSessionQuietly_handled _ _ _).trans begun)
  unfold doShutdown
  simp only
  split_ifs
  · rfl
  · exact closed
  · exact begun

theorem handleNewCall_handled (pc : PendingCall) (w : World) :
    (w.handleNewCall platform config pc).handled = w.handled ++ [pc.call] := by
  unfold handleNewCall
  simp only
  split
  · rfl
  · rfl
  · exact startConnecting_handled _
  · rfl
  · exact (flushOutput_handled _).trans (submitCall_handled _ _)

theorem step_handled (w : World) (event : ChannelEvent) :
    (w.step platform config event).handled =
      w.handled ++ event.handles := by
  cases event with
  | newCall pc => exact handleNewCall_handled pc w
  | runDue now => exact (runDue_handled now w).trans (List.append_nil _).symm
  | pollEvents => exact (pollEvents_handled w).trans (List.append_nil _).symm
  | ready revents =>
      exact (onReady_handled revents w).trans (List.append_nil _).symm
  | shutdown => exact (doShutdown_handled w).trans (List.append_nil _).symm

end World

end Egrpc
