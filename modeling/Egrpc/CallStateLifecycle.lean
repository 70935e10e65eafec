import Egrpc.CallState

/-!
# First close wins

Every entry point of a call is guarded by its phase.  The lemmas below say what
each of them does to the phase and to the completion flag; the run theorem
concludes that the first closing event decides the result for good, which is
what lets `Wait` hand out the result without holding the lock.
-/

namespace Egrpc

namespace CallState

/-! ## Phase and completion flag of the loops -/

theorem foldl_phase {Item : Type*} {body : CallState → Item → CallState}
    (keeps : ∀ call item, (body call item).state = call.state ∧
      (body call item).done = call.done)
    (items : List Item) (call : CallState) :
    (items.foldl body call).state = call.state ∧
      (items.foldl body call).done = call.done := by
  induction items generalizing call with
  | nil => exact ⟨rfl, rfl⟩
  | cons item items ih =>
      obtain ⟨stateEq, doneEq⟩ := ih (body call item)
      exact ⟨stateEq.trans (keeps call item).1, doneEq.trans (keeps call item).2⟩

theorem onResponseHeader_phase (endStream : Bool) (call : CallState)
    (header : Header) :
    (onResponseHeader endStream call header).state = call.state ∧
      (onResponseHeader endStream call header).done = call.done := by
  unfold onResponseHeader addMetadata
  split_ifs <;> exact ⟨rfl, rfl⟩

theorem onTrailer_phase (call : CallState) (header : Header) :
    (onTrailer call header).state = call.state ∧
      (onTrailer call header).done = call.done := by
  unfold onTrailer addMetadata
  split_ifs <;> exact ⟨rfl, rfl⟩

theorem takeMessage_phase (call : CallState) (message : Bytes) :
    (takeMessage call message).state = call.state ∧
      (takeMessage call message).done = call.done := by
  unfold takeMessage
  simp only
  split_ifs <;> exact ⟨rfl, rfl⟩

theorem onData_phase (call : CallState) (data : Bytes) :
    (call.onData data).state = call.state ∧
      (call.onData data).done = call.done := by
  unfold onData
  simp only
  split_ifs
  · exact ⟨rfl, rfl⟩
  · exact ⟨rfl, rfl⟩
  · exact foldl_phase takeMessage_phase _ _

/-! ## One event -/

theorem handle_of_closed {call : CallState} (closed : call.state = .closed)
    (event : CallEvent) : call.handle event = call := by
  cases event with
  | stream event =>
      cases event with
      | submitted streamId => simp [handle, receive, onSubmitted, closed]
      | responseHeaders headers endStream =>
          simp [handle, receive, onResponseHeaders, closed]
      | data bytes => simp [handle, receive, onData, closed]
      | trailers headers => simp [handle, receive, onTrailers, closed]
  | close http2ErrorCode => simp [handle, onClose, closed]
  | failLocal code message => simp [handle, failLocal, closed]

/-- A stream event neither completes a call nor moves it back. -/
theorem receive_phase (call : CallState) (event : StreamEvent) :
    (call.receive event).done = call.done ∧
      call.state.rank ≤ (call.receive event).state.rank ∧
      ((call.receive event).state = .closed ↔ call.state = .closed) := by
  cases event with
  | submitted streamId =>
      simp only [receive, onSubmitted]
      split_ifs with started
      · exact ⟨rfl, Nat.le_refl _, Iff.rfl⟩
      · simp only [ne_eq, Decidable.not_not] at started
        simp [started, State.rank]
  | responseHeaders headers endStream =>
      simp only [receive, onResponseHeaders]
      split_ifs with closed
      · exact ⟨rfl, Nat.le_refl _, Iff.rfl⟩
      · obtain ⟨stateEq, doneEq⟩ :=
          foldl_phase (onResponseHeader_phase endStream) headers
            { call with state := .open, sawInitialHeaders := true }
        rw [stateEq, doneEq]
        refine ⟨rfl, ?_, by simp [closed]⟩
        cases phase : call.state <;> simp_all [State.rank]
  | data bytes =>
      obtain ⟨stateEq, doneEq⟩ := onData_phase call bytes
      simp only [receive, stateEq, doneEq]
      exact ⟨trivial, Nat.le_refl _, trivial⟩
  | trailers headers =>
      simp only [receive, onTrailers]
      split_ifs
      · exact ⟨rfl, Nat.le_refl _, Iff.rfl⟩
      · obtain ⟨stateEq, doneEq⟩ := foldl_phase onTrailer_phase headers call
        rw [stateEq, doneEq]
        exact ⟨rfl, Nat.le_refl _, Iff.rfl⟩

/-- A closing event leaves the call closed and done, if a closed call is done
to begin with. -/
theorem handle_closing {call : CallState} {event : CallEvent}
    (closing : event.Closing) (consistent : call.done = true ↔ call.state = .closed) :
    (call.handle event).state = .closed ∧ (call.handle event).done = true := by
  by_cases closed : call.state = .closed
  · rw [handle_of_closed closed]
    exact ⟨closed, consistent.mpr closed⟩
  · cases event with
    | stream event => exact closing.elim
    | close http2ErrorCode => simp [handle, onClose, closed, closeLocked]
    | failLocal code message => simp [handle, failLocal, closed, closeLocked]

theorem handle_consistent {call : CallState}
    (consistent : call.done = true ↔ call.state = .closed)
    (event : CallEvent) :
    ((call.handle event).done = true ↔ (call.handle event).state = .closed) := by
  by_cases closing : event.Closing
  · obtain ⟨closed, done⟩ := handle_closing closing consistent
    simp [closed, done]
  · cases event with
    | stream event =>
        obtain ⟨doneEq, -, closedIff⟩ := receive_phase call event
        simp only [handle, doneEq, closedIff]
        exact consistent
    | close http2ErrorCode => exact (closing trivial).elim
    | failLocal code message => exact (closing trivial).elim

/-- An event closes a call when the call was closed or the event is a closing
one. -/
theorem handle_closed_iff {call : CallState}
    (consistent : call.done = true ↔ call.state = .closed)
    (event : CallEvent) :
    (call.handle event).state = .closed ↔
      call.state = .closed ∨ event.Closing := by
  by_cases closing : event.Closing
  · simp [closing, (handle_closing closing consistent).1]
  · cases event with
    | stream event =>
        simp only [handle, closing, or_false]
        exact (receive_phase call event).2.2
    | close http2ErrorCode => exact (closing trivial).elim
    | failLocal code message => exact (closing trivial).elim

theorem handle_rank_le {call : CallState}
    (consistent : call.done = true ↔ call.state = .closed)
    (event : CallEvent) :
    call.state.rank ≤ (call.handle event).state.rank := by
  by_cases closing : event.Closing
  · rw [(handle_closing closing consistent).1]
    cases call.state <;> simp [State.rank]
  · cases event with
    | stream event => exact (receive_phase call event).2.1
    | close http2ErrorCode => exact (closing trivial).elim
    | failLocal code message => exact (closing trivial).elim

/-! ## Whole runs -/

theorem handleAll_append (call : CallState) (first second : List CallEvent) :
    call.handleAll (first ++ second) =
      (call.handleAll first).handleAll second :=
  List.foldl_append

theorem handleAll_consistent {call : CallState}
    (consistent : call.done = true ↔ call.state = .closed)
    (events : List CallEvent) :
    ((call.handleAll events).done = true ↔
      (call.handleAll events).state = .closed) := by
  induction events generalizing call with
  | nil => exact consistent
  | cons event events ih => exact ih (handle_consistent consistent event)

theorem handleAll_closed_iff {call : CallState}
    (consistent : call.done = true ↔ call.state = .closed)
    (events : List CallEvent) :
    (call.handleAll events).state = .closed ↔
      call.state = .closed ∨ ∃ event ∈ events, event.Closing := by
  induction events generalizing call with
  | nil => simp [handleAll]
  | cons event events ih =>
      have later := ih (handle_consistent consistent event)
      rw [handle_closed_iff consistent event, or_assoc] at later
      simpa [handleAll] using later

theorem handleAll_of_closed {call : CallState} (closed : call.state = .closed)
    (events : List CallEvent) : call.handleAll events = call := by
  induction events with
  | nil => rfl
  | cons event events ih =>
      change (call.handle event).handleAll events = call
      rw [handle_of_closed closed, ih]

end CallState

/-- In every sequence of events on a fresh call: the completion flag is set
exactly in the closed phase, and exactly from the first closing event on; no
event lowers the phase; and whatever comes after the first closing event, the
whole result, and so what `Wait` exposes, is what that event computed from the
events before it. -/
theorem first_close_wins (maxReceiveMessageSize : Nat)
    (events : List CallEvent) :
    let fresh := CallState.new maxReceiveMessageSize
    let call := fresh.handleAll events
    (call.done = true ↔ call.state = .closed) ∧
      (call.done = true ↔ ∃ event ∈ events, event.Closing) ∧
      (∀ event, call.state.rank ≤ (call.handle event).state.rank) ∧
      ∀ before closing after, events = before ++ closing :: after →
        (∀ event ∈ before, ¬ event.Closing) → closing.Closing →
          call.result = ((fresh.handleAll before).handle closing).result ∧
            call.wait = some ((fresh.handleAll before).handle closing).result := by
  intro fresh call
  have initially : fresh.done = true ↔ fresh.state = .closed := by
    simp [fresh, CallState.new]
  have consistent : call.done = true ↔ call.state = .closed :=
    CallState.handleAll_consistent initially events
  refine ⟨consistent, ?_, CallState.handle_rank_le consistent, ?_⟩
  · rw [consistent, CallState.handleAll_closed_iff initially]
    simp [fresh, CallState.new]
  · rintro before closing after rfl - closes
    obtain ⟨closed, done⟩ := CallState.handle_closing closes
      (CallState.handleAll_consistent initially before)
    have frozen : call = (fresh.handleAll before).handle closing := by
      change fresh.handleAll (before ++ closing :: after) = _
      rw [CallState.handleAll_append]
      exact CallState.handleAll_of_closed closed after
    rw [frozen]
    exact ⟨rfl, by simp [CallState.wait, done]⟩

end Egrpc
