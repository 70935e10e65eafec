import Egrpc.ChannelServing

/-!
# Failing the calls of a channel

`TearDown` and `DoShutdown` both empty the channel's two collections and fail
every call in them.  This file says what that does to the calls and what
`TearDown` leaves of the channel.  The detail given to `TearDown` is a reference
that is followed once for each call; following it after the object behind it is
gone is recorded as a fault.
-/

namespace Egrpc

namespace World

/-- The faults of reading a detail a number of times. -/
def danglingReads (w : World) (detail : Detail) (count : Nat) : List Fault :=
  match w.resolve detail with
  | some _ => []
  | none => List.replicate count .danglingDetail

theorem danglingReads_add (w : World) (detail : Detail) (first second : Nat) :
    w.danglingReads detail (first + second) =
      w.danglingReads detail first ++ w.danglingReads detail second := by
  unfold danglingReads
  cases w.resolve detail with
  | some text => rfl
  | none => exact List.replicate_add _ _ _

theorem failCallWith_eq (detail : Detail) (w : World) (call : Nat) :
    ∃ text freed,
      failCallWith detail w call =
        { w with
          calls := Function.update w.calls call
            ((w.calls call).handle (.failLocal .unavailable text))
          freed := freed
          faults := w.faults ++ w.danglingReads detail 1 } ∧
      ∀ held, w.resolve detail = some held → text = held := by
  unfold failCallWith readDetail danglingReads
  cases held : w.resolve detail with
  | some text =>
      refine ⟨text, w.freed, ?_, ?_⟩
      · simp only [List.append_nil]
        rfl
      · rintro _ ⟨⟩
        rfl
  | none => exact ⟨(takeAnswer [] w.freed).1, (takeAnswer [] w.freed).2, rfl, by simp⟩

/-- A call has been failed as unavailable, with a text if one is given. -/
structure FailedAs (call : CallState) (text : Option Bytes) : Prop where
  closed : call.state = .closed
  done : call.done = true
  code : call.result.code = .unavailable
  message : ∀ bytes, text = some bytes → call.result.message = bytes

theorem FailedAs.settled {call : CallState} {text : Option Bytes}
    (failed : FailedAs call text) :
    (call.done = true ↔ call.state = .closed) ∧ call.done = true := by
  simp [failed.closed, failed.done]

theorem failedAs_failLocal {call : CallState} (waiting : call.state ≠ .closed)
    (message : Bytes) {text : Option Bytes}
    (isText : ∀ bytes, text = some bytes → message = bytes) :
    FailedAs (call.handle (.failLocal .unavailable message)) text := by
  simp only [CallState.handle, CallState.failLocal, if_neg waiting]
  exact ⟨rfl, rfl, rfl, isText⟩

theorem foldl_failCallWith (detail : Detail) (items : List Nat) (w : World) :
    ∃ calls freed,
      items.foldl (failCallWith detail) w =
        { w with
          calls := calls
          freed := freed
          faults := w.faults ++ w.danglingReads detail items.length } ∧
      (∀ call, call ∉ items → calls call = w.calls call) ∧
      (items.Nodup → (∀ call ∈ items, (w.calls call).state ≠ .closed) →
        ∀ call ∈ items, FailedAs (calls call) (w.resolve detail)) := by
  induction items generalizing w with
  | nil =>
      refine ⟨w.calls, w.freed, ?_, fun _ _ => rfl, by simp⟩
      have none : w.danglingReads detail 0 = [] := by
        unfold danglingReads
        split <;> rfl
      simp only [List.foldl_nil, List.length_nil, none, List.append_nil]
  | cons first items ih =>
      obtain ⟨text, freed, failed, isText⟩ := failCallWith_eq detail w first
      obtain ⟨calls, freed', rest, others, ended⟩ :=
        ih (failCallWith detail w first)
      rw [failed] at rest others ended
      refine ⟨calls, freed', ?_, ?_, ?_⟩
      · rw [List.foldl_cons, failed, rest, List.length_cons, Nat.add_comm,
          danglingReads_add, ← List.append_assoc]
        rfl
      · intro call apart
        rw [List.mem_cons, not_or] at apart
        rw [others call apart.2]
        exact Function.update_of_ne apart.1 _ _
      · intro nodup waiting call member
        obtain ⟨apart, nodup⟩ := List.nodup_cons.mp nodup
        rcases List.mem_cons.mp member with rfl | later
        · rw [others call apart]
          simp only [Function.update_self]
          exact failedAs_failLocal (waiting call (by simp)) text isText
        · refine ended nodup ?_ call later
          intro other present
          have distinct : other ≠ first := fun same => apart (same ▸ present)
          simp only [Function.update_of_ne distinct]
          exact waiting other (List.mem_cons_of_mem _ present)

theorem failAllCalls_eq (detail : Detail) (w : World) :
    ∃ calls freed,
      w.failAllCalls (failCallWith detail) =
        { w with
          activeCalls := []
          pendingCalls := []
          calls := calls
          freed := freed
          faults := w.faults ++ w.danglingReads detail
            (w.activeCalls ++ w.pendingCalls.map PendingCall.call).length } ∧
      (∀ call, call ∉ w.activeCalls ++ w.pendingCalls.map PendingCall.call →
        calls call = w.calls call) ∧
      ((w.activeCalls ++ w.pendingCalls.map PendingCall.call).Nodup →
        (∀ call ∈ w.activeCalls ++ w.pendingCalls.map PendingCall.call,
          (w.calls call).state ≠ .closed) →
        ∀ call ∈ w.activeCalls ++ w.pendingCalls.map PendingCall.call,
          FailedAs (calls call) (w.resolve detail)) := by
  obtain ⟨calls, freed, active, others, ended⟩ :=
    foldl_failCallWith detail w.activeCalls { w with activeCalls := [] }
  obtain ⟨calls', freed', pending, others', ended'⟩ :=
    foldl_failCallWith detail (w.pendingCalls.map PendingCall.call)
      { w with
        activeCalls := []
        pendingCalls := []
        calls := calls
        freed := freed
        faults := w.faults ++ w.danglingReads detail w.activeCalls.length }
  refine ⟨calls', freed', ?_, ?_, ?_⟩
  · unfold failAllCalls
    simp only
    rw [active]
    simp only
    rw [List.length_append, danglingReads_add, ← List.append_assoc]
    exact pending
  · intro call apart
    rw [List.mem_append, not_or] at apart
    rw [others' call apart.2]
    exact others call apart.1
  · intro nodup waiting call member
    obtain ⟨activeNodup, pendingNodup, apart⟩ := List.nodup_append.mp nodup
    have distinct : ∀ other ∈ w.pendingCalls.map PendingCall.call,
        other ∉ w.activeCalls :=
      fun other present isActive => apart other isActive other present rfl
    by_cases queued : call ∈ w.pendingCalls.map PendingCall.call
    · refine ended' pendingNodup ?_ call queued
      intro other present
      simp only
      rw [others other (distinct other present)]
      exact waiting other (List.mem_append_right _ present)
    · have isActive := (List.mem_append.mp member).resolve_right queued
      rw [others' call queued]
      exact ended activeNodup
        (fun other present => waiting other (List.mem_append_left _ present))
        call isActive

/-! ## Releasing the transport -/

/-- Every pending timer is named by one of the channel's timer fields. -/
def TimersNamed (w : World) : Prop :=
  ∀ id ∈ w.timers.callbacks,
    id ≠ 0 ∧ (id = w.connectTimer ∨ id = w.keepaliveTimer)

theorem TimersNamed.cancelled {w : World} (named : w.TimersNamed) (id : Nat) :
    id ∉ w.cancelTimersAndUnwatch.timers.callbacks := by
  intro member
  obtain ⟨kept, notKeepalive⟩ := TimerHeap.mem_cancelNamed member
  obtain ⟨pending, notConnect⟩ := TimerHeap.mem_cancelNamed kept
  obtain ⟨nonzero, isConnect | isKeepalive⟩ := named id pending
  · exact notConnect nonzero isConnect
  · exact notKeepalive nonzero isKeepalive

/-- The world in which `TearDown` fails the calls. -/
def released (w : World) (detail : Detail) (text : Bytes) : World :=
  ({ w with
      state := .failed
      tearDowns := w.tearDowns ++ [w.tearDownCall detail]
      failureDetail := text } :
    World).cancelTimersAndUnwatch.closeSocket.resetSession

theorem tearDown_eq_released {w : World} {detail : Detail} {text : Bytes}
    (ongoing : ¬ (w.state = .failed ∨ w.state = .shutdown))
    (resolved : w.resolve detail = some text) :
    w.tearDown detail =
      (w.released detail text).failAllCalls (failCallWith detail) := by
  have read : w.recordFailure detail =
      { w with
        state := .failed
        tearDowns := w.tearDowns ++ [w.tearDownCall detail]
        failureDetail := text } := by
    have same : { w with
        state := .failed
        tearDowns := w.tearDowns ++ [w.tearDownCall detail] }.resolve detail =
        some text := by
      cases detail <;> exact resolved
    simp only [recordFailure, readDetail, same]
  rw [tearDown, if_neg ongoing, read]
  rfl

/-- Once the session is gone, only its own error text is unreadable. -/
theorem released_resolve {w : World} {detail : Detail} {text : Bytes}
    (resolved : w.resolve detail = some text) :
    (w.released detail text).resolve detail =
      if detail = .session then none else some text := by
  cases detail with
  | session => rfl
  | socket =>
      have error := TlsIo.close_error ⟨w.sock, w.tls⟩
      simp only [reduceCtorEq, if_false]
      rw [← resolved]
      exact congrArg some error
  | temporary kept =>
      simp only [reduceCtorEq, if_false]
      exact resolved

/-- What `TearDown` does to the calls of a channel that is neither failed nor
shut down, and what it leaves of the channel. -/
structure TornDown (detail : Detail) (text : Bytes) (w w' : World) : Prop where
  state : w'.state = .failed
  h2 : w'.h2 = none
  connectTimer : w'.connectTimer = 0
  keepaliveTimer : w'.keepaliveTimer = 0
  timers : w.TimersNamed → ∀ id, id ∉ w'.timers.callbacks
  watchedFd : w'.watchedFd = -1
  watch : w'.watch = none
  pendingCalls : w'.pendingCalls = []
  activeCalls : w'.activeCalls = []
  handled : w'.handled = w.handled
  failureDetail : w'.failureDetail = text
  tearDowns : w'.tearDowns = w.tearDowns ++ [w.tearDownCall detail]
  faults : w'.faults = w.faults ++
    if detail = .session then
      List.replicate (w.tearDownCall detail).found.length .danglingDetail
    else []
  others : ∀ call, call ∉ (w.tearDownCall detail).found →
    w'.calls call = w.calls call
  ended : (w.tearDownCall detail).found.Nodup →
    (∀ call ∈ (w.tearDownCall detail).found, (w.calls call).state ≠ .closed) →
    ∀ call ∈ (w.tearDownCall detail).found,
      FailedAs (w'.calls call) (if detail = .session then none else some text)

theorem tearDown_spec {w : World} {detail : Detail} {text : Bytes}
    (ongoing : ¬ (w.state = .failed ∨ w.state = .shutdown))
    (resolved : w.resolve detail = some text) :
    TornDown detail text w (w.tearDown detail) := by
  obtain ⟨calls, freed, failed, others, ended⟩ :=
    failAllCalls_eq detail (w.released detail text)
  rw [tearDown_eq_released ongoing resolved, failed]
  have faults : (w.released detail text).danglingReads detail
      (w.tearDownCall detail).found.length =
      if detail = .session then
        List.replicate (w.tearDownCall detail).found.length .danglingDetail
      else [] := by
    unfold danglingReads
    rw [released_resolve resolved]
    split_ifs <;> rfl
  exact
    { state := rfl
      h2 := rfl
      connectTimer := rfl
      keepaliveTimer := rfl
      timers := fun named id => TimersNamed.cancelled (w := { w with
        state := .failed
        tearDowns := w.tearDowns ++ [w.tearDownCall detail]
        failureDetail := text }) named id
      watchedFd := rfl
      watch := rfl
      pendingCalls := rfl
      activeCalls := rfl
      handled := rfl
      failureDetail := rfl
      tearDowns := rfl
      faults := congrArg (w.faults ++ ·) faults
      others := others
      ended := released_resolve resolved ▸ ended }

end World

end Egrpc
