import Egrpc.CallStateHeads

/-!
# Response metadata

Header blocks reach a call as response headers, as trailers, or as a Trailers-Only
response that is both.  Each received header is either about the call itself or
metadata of the response, and the metadata lists of the result hold the latter in
the order of arrival.  A Trailers-Only response amounts to its headers and its
trailers sent apart.
-/

namespace Egrpc

/-- The header is metadata: neither a pseudo-header nor part of the status. -/
def isMetadata (header : Header) : Bool :=
  !isPseudo header && header.1 != Bytes.ofString "grpc-status" &&
    header.1 != Bytes.ofString "grpc-message"

def StreamEvent.initialMetadata : StreamEvent → HeaderList
  | .responseHeaders headers false => (withoutContentType headers).filter isMetadata
  | .responseHeaders _ true | .submitted _ | .data _ | .trailers _ => []

/-- What an event adds to the initial list of the result. -/
def StreamEvent.addedInitial : StreamEvent → HeaderList
  | .responseHeaders headers false => initialMetadataOf headers
  | .responseHeaders _ true | .submitted _ | .data _ | .trailers _ => []

def StreamEvent.trailingMetadata : StreamEvent → HeaderList
  | .responseHeaders headers true => (withoutContentType headers).filter isMetadata
  | .trailers headers => headers.filter isMetadata
  | .responseHeaders _ false | .submitted _ | .data _ => []

/-- No part of the status stands in response headers that leave the stream open. -/
def StreamEvent.statusAtEnd : StreamEvent → Prop
  | .responseHeaders headers false =>
      ∀ header ∈ headers, header.1 ≠ Bytes.ofString "grpc-status" ∧
        header.1 ≠ Bytes.ofString "grpc-message"
  | .responseHeaders _ true | .submitted _ | .data _ | .trailers _ => True

instance : DecidablePred StreamEvent.statusAtEnd
  | .responseHeaders headers false =>
      inferInstanceAs (Decidable (∀ header ∈ headers,
        header.1 ≠ Bytes.ofString "grpc-status" ∧ header.1 ≠ Bytes.ofString "grpc-message"))
  | .responseHeaders _ true | .submitted _ | .data _ | .trailers _ => isTrue trivial

/-- The header belongs to the response and not to its trailers. -/
def isLeading (header : Header) : Bool :=
  isPseudo header || header.1 == Bytes.ofString "content-type"

/-! ## The metadata lists -/

theorem isMetadata_iff (header : Header) :
    isMetadata header = true ↔ isPseudo header = false ∧
      header.1 ≠ Bytes.ofString "grpc-status" ∧
        header.1 ≠ Bytes.ofString "grpc-message" := by
  simp [isMetadata, and_assoc]

/-- What an event adds to the initial list is its initial metadata, and whatever it
says of the status. -/
theorem filter_addedInitial (event : StreamEvent) :
    event.addedInitial.filter isMetadata = event.initialMetadata := by
  cases event with
  | submitted | data | trailers => rfl
  | responseHeaders headers endStream =>
      cases endStream with
      | true => rfl
      | false =>
          simp only [StreamEvent.addedInitial, StreamEvent.initialMetadata, initialMetadataOf,
            withoutContentType, List.filter_filter]
          refine List.filter_congr fun header _ => ?_
          cases pseudo : isPseudo header <;> simp [isMetadata, pseudo]

theorem addedInitial_isMetadata_iff (event : StreamEvent) :
    (∀ header ∈ event.addedInitial, isMetadata header = true) ↔ event.statusAtEnd := by
  cases event with
  | submitted | data | trailers => simp [StreamEvent.addedInitial, StreamEvent.statusAtEnd]
  | responseHeaders headers endStream =>
      cases endStream with
      | true => simp [StreamEvent.addedInitial, StreamEvent.statusAtEnd]
      | false =>
          simp only [StreamEvent.addedInitial, StreamEvent.statusAtEnd]
          constructor
          · intro clean header member
            by_contra named
            have inStatus : header.1 = Bytes.ofString "grpc-status" ∨
                header.1 = Bytes.ofString "grpc-message" := by
              tauto
            -- such a header is neither a pseudo-header nor the content type
            have kept : header ∈ initialMetadataOf headers := by
              refine List.mem_filter.mpr ⟨member, ?_⟩
              rcases inStatus with status | message
              · simp [isPseudo, status, hookNames_regular, hookNames_apart.2.1.symm]
              · simp [isPseudo, message, hookNames_regular, hookNames_apart.2.2.1.symm]
            exact named ((isMetadata_iff header).mp (clean header kept)).2
          · intro atEnd header member
            obtain ⟨received, kept⟩ := List.mem_filter.mp member
            rw [isMetadata_iff]
            refine ⟨?_, atEnd header received⟩
            simp only [Bool.and_eq_true, Bool.not_eq_true'] at kept
            exact kept.1

theorem filter_trailingMetadata (event : StreamEvent) :
    event.trailingMetadata.filter isMetadata = event.trailingMetadata := by
  cases event with
  | submitted | data => rfl
  | trailers headers => simp [StreamEvent.trailingMetadata]
  | responseHeaders headers endStream =>
      cases endStream <;> simp [StreamEvent.trailingMetadata]

theorem Heads.metadata_foldl (events : List StreamEvent) (heads : Heads) :
    (events.foldl Heads.add heads).initialMetadata =
        heads.initialMetadata ++ events.flatMap StreamEvent.addedInitial ∧
      (events.foldl Heads.add heads).trailingMetadata =
        heads.trailingMetadata ++ events.flatMap StreamEvent.trailingMetadata := by
  induction events generalizing heads with
  | nil => simp
  | cons event events ih =>
      obtain ⟨initial, trailing⟩ := ih (heads.add event)
      rw [List.foldl_cons, initial, trailing, List.flatMap_cons, List.flatMap_cons,
        ← List.append_assoc, ← List.append_assoc]
      have added : (heads.add event).initialMetadata =
            heads.initialMetadata ++ event.addedInitial ∧
          (heads.add event).trailingMetadata =
            heads.trailingMetadata ++ event.trailingMetadata := by
        cases event with
        | submitted | data =>
            simp [Heads.add, StreamEvent.addedInitial, StreamEvent.trailingMetadata]
        | trailers headers =>
            simp only [Heads.add, addTrailers, StreamEvent.addedInitial, List.append_nil,
              true_and]
            rfl
        | responseHeaders headers endStream =>
            cases endStream with
            | true =>
                simp only [Heads.add, addResponseHeaders, if_true, addTrailers, addStatusLine,
                  StreamEvent.addedInitial, List.append_nil, true_and]
                rfl
            | false =>
                simp [Heads.add, addResponseHeaders, addStatusLine, StreamEvent.addedInitial,
                  StreamEvent.trailingMetadata]
      rw [added.1, added.2]
      exact ⟨rfl, rfl⟩

namespace CallState

theorem handle_closing_metadata {call : CallState} (notClosed : call.state ≠ .closed)
    {closing : CallEvent} (closes : closing.Closing) :
    (call.handle closing).state = .closed ∧
      (call.handle closing).result.initialMetadata = call.heads.initialMetadata ∧
      (call.handle closing).result.trailingMetadata = call.heads.trailingMetadata := by
  cases closing with
  | stream event => exact closes.elim
  | close http2ErrorCode =>
      simp only [handle, onClose, if_neg notClosed]
      exact ⟨rfl, finalizeLocked_metadata call http2ErrorCode⟩
  | failLocal code message =>
      simp only [handle, failLocal, if_neg notClosed]
      exact ⟨rfl, rfl, rfl⟩

theorem receiveAll_notClosed {call : CallState} (notClosed : call.state ≠ .closed)
    (events : List StreamEvent) : (call.receiveAll events).state ≠ .closed := by
  induction events generalizing call with
  | nil => exact notClosed
  | cons event events ih =>
      exact ih ((not_congr (call.receive_phase event).2.2).mpr notClosed)

end CallState

/-- Whatever arrives before a call is closed, and whatever comes after, the lists of
the result hold all metadata in the order of arrival.  They hold nothing else
exactly if no response headers that leave the stream open carry a part of the
status. -/
theorem metadata_complete_and_clean_iff (maxReceiveMessageSize : Nat)
    (events : List StreamEvent) (closing : CallEvent) (later : List CallEvent)
    (closes : closing.Closing) :
    let call := (CallState.new maxReceiveMessageSize).receiveAll events
    let result := ((call.handle closing).handleAll later).result
    (result.initialMetadata.filter isMetadata =
        events.flatMap StreamEvent.initialMetadata ∧
      result.trailingMetadata.filter isMetadata =
        events.flatMap StreamEvent.trailingMetadata) ∧
    ((∀ header ∈ result.initialMetadata ++ result.trailingMetadata,
        isPseudo header = false ∧ header.1 ≠ Bytes.ofString "grpc-status" ∧
          header.1 ≠ Bytes.ofString "grpc-message") ↔
      ∀ event ∈ events, event.statusAtEnd) := by
  intro call result
  have fresh : (CallState.new maxReceiveMessageSize).state ≠ .closed := by
    simp [CallState.new]
  have notClosed : call.state ≠ .closed := CallState.receiveAll_notClosed fresh events
  obtain ⟨closed, initial, trailing⟩ := CallState.handle_closing_metadata notClosed closes
  have resultEq : result = (call.handle closing).result :=
    congrArg CallState.result (CallState.handleAll_of_closed closed later)
  obtain ⟨initialEq, trailingEq⟩ := Heads.metadata_foldl events
    (CallState.new maxReceiveMessageSize).heads
  rw [← CallState.heads_receiveAll fresh, ← initial, ← resultEq] at initialEq
  rw [← CallState.heads_receiveAll fresh, ← trailing, ← resultEq] at trailingEq
  have initialEq : result.initialMetadata = events.flatMap StreamEvent.addedInitial := initialEq
  have trailingEq : result.trailingMetadata =
      events.flatMap StreamEvent.trailingMetadata := trailingEq
  rw [initialEq, trailingEq]
  refine ⟨⟨?_, ?_⟩, ?_⟩
  · simp only [List.filter_flatMap, filter_addedInitial]
  · simp only [List.filter_flatMap, filter_trailingMetadata]
  · simp only [← isMetadata_iff, ← addedInitial_isMetadata_iff]
    constructor
    · intro clean event member header added
      exact clean header (List.mem_append_left _ (List.mem_flatMap.mpr ⟨event, member, added⟩))
    · intro clean header member
      rcases List.mem_append.mp member with initially | atEnd
      · obtain ⟨event, received, added⟩ := List.mem_flatMap.mp initially
        exact clean event received header added
      · obtain ⟨event, -, added⟩ := List.mem_flatMap.mp atEnd
        rw [← filter_trailingMetadata] at added
        exact (List.mem_filter.mp added).2

/-- A status in trailers is not metadata. -/
theorem metadata_clean_with_trailers :
    let result := ((((CallState.new 0).receiveAll
      [.responseHeaders [(Bytes.ofString ":status", Bytes.ofString "200"),
        (Bytes.ofString "a", [])] false,
        .trailers [(Bytes.ofString "grpc-status", Bytes.ofString "0")]]).handle
          (.close 0)).handleAll []).result
    result.initialMetadata.filter isMetadata = [(Bytes.ofString "a", [])] ∧
      ∀ header ∈ result.initialMetadata ++ result.trailingMetadata,
        isPseudo header = false ∧ header.1 ≠ Bytes.ofString "grpc-status" ∧
          header.1 ≠ Bytes.ofString "grpc-message" := by
  obtain ⟨⟨kept, _⟩, clean⟩ := metadata_complete_and_clean_iff 0
    [.responseHeaders [(Bytes.ofString ":status", Bytes.ofString "200"),
      (Bytes.ofString "a", [])] false,
      .trailers [(Bytes.ofString "grpc-status", Bytes.ofString "0")]] (.close 0) []
    trivial
  exact ⟨kept.trans (by decide), clean.mpr (by decide)⟩

/-- A status in response headers that leave the stream open ends up among the
initial metadata. -/
theorem early_status_kept_as_metadata :
    let result := (((CallState.new 0).receiveAll
      [.responseHeaders [(Bytes.ofString "grpc-status", Bytes.ofString "0")] false]).handle
        (.close 0)).result
    (Bytes.ofString "grpc-status", Bytes.ofString "0") ∈ result.initialMetadata ∧
      ¬ ∀ header ∈ result.initialMetadata ++ result.trailingMetadata,
        isPseudo header = false ∧ header.1 ≠ Bytes.ofString "grpc-status" ∧
          header.1 ≠ Bytes.ofString "grpc-message" := by
  decide

/-! ## Trailers-Only responses -/

theorem headerValues_filter (keep : Header → Bool) (name : Bytes) (headers : HeaderList)
    (kept : ∀ value, keep (name, value) = true) :
    headerValues name (headers.filter keep) = headerValues name headers := by
  rw [headerValues, headerValues, List.filter_filter]
  refine congrArg (List.map Prod.snd) (List.filter_congr fun header _ => ?_)
  by_cases named : header.1 = name
  · have keeps := kept header.2
    rw [← named] at keeps
    simp [named, keeps]
  · simp [named]

/-- The headers and the trailers apart amount to what they amount to together. -/
theorem Heads.addResponseHeaders_trailersOnly (heads : Heads) (headers : HeaderList) :
    heads.addResponseHeaders headers true =
      (heads.addResponseHeaders (headers.filter isLeading) false).addTrailers
        (headers.filter fun header => !isLeading header) := by
  have noInitial : initialMetadataOf (headers.filter isLeading) = [] := by
    rw [initialMetadataOf, List.filter_filter, List.filter_eq_nil_iff]
    intro header _
    simp only [isLeading]
    cases isPseudo header <;> simp
  have sameTrailing : trailingMetadataOf (headers.filter fun header => !isLeading header) =
      trailingMetadataOf (withoutContentType headers) := by
    simp only [trailingMetadataOf, withoutContentType, List.filter_filter]
    refine List.filter_congr fun header _ => ?_
    simp only [isLeading, bne]
    cases isPseudo header <;> simp
  simp only [addResponseHeaders, addStatusLine, addTrailers, if_true, Bool.false_eq_true,
    if_false, noInitial, sameTrailing, List.append_nil, withoutContentType,
    headerValues_filter isLeading (Bytes.ofString ":status") headers fun _ => rfl,
    headerValues_filter isLeading (Bytes.ofString "content-type") headers fun _ => rfl,
    headerValues_filter (fun header => !isLeading header) (Bytes.ofString "grpc-status")
      headers fun _ => rfl,
    headerValues_filter (fun header => !isLeading header) (Bytes.ofString "grpc-message")
      headers fun _ => rfl,
    headerValues_filter (fun header => header.1 != Bytes.ofString "content-type")
      (Bytes.ofString "grpc-status") headers fun _ => rfl,
    headerValues_filter (fun header => header.1 != Bytes.ofString "content-type")
      (Bytes.ofString "grpc-message") headers fun _ => rfl]

namespace CallState

section Verdict

variable {call other : CallState}

theorem setStatus_result_congr (sameHeads : call.heads = other.heads)
    (sameBody : SameBody call other) (code : StatusCode) (message : Bytes) :
    (call.setStatus code message).result = (other.setStatus code message).result := by
  have initial : call.result.initialMetadata = other.result.initialMetadata :=
    congrArg Heads.initialMetadata sameHeads
  have trailing : call.result.trailingMetadata = other.result.trailingMetadata :=
    congrArg Heads.trailingMetadata sameHeads
  simp only [setStatus, sameBody.response, initial, trailing]

theorem finalizeOk_result_congr (sameResult : call.result = other.result)
    (sameBody : SameBody call other) :
    call.finalizeOk.result = other.finalizeOk.result := by
  unfold finalizeOk setStatus
  rw [sameBody.scanner, sameBody.responseCount, sameBody.firstResponse, sameResult]
  split_ifs <;> rfl

/-- The verdict depends on the header side and the message side alone. -/
theorem finalizeLocked_result_congr (sameHeads : call.heads = other.heads)
    (sameBody : SameBody call other) (http2ErrorCode : Nat) :
    (call.finalizeLocked http2ErrorCode).result =
      (other.finalizeLocked http2ErrorCode).result := by
  have withStatus := setStatus_result_congr sameHeads sameBody
  have saw : call.sawInitialHeaders = other.sawInitialHeaders :=
    congrArg Heads.sawInitialHeaders sameHeads
  have httpStatus : call.httpStatus = other.httpStatus :=
    congrArg Heads.httpStatus sameHeads
  have contentType : call.contentType = other.contentType :=
    congrArg Heads.contentType sameHeads
  have statusRaw : call.grpcStatusRaw = other.grpcStatusRaw :=
    congrArg Heads.grpcStatusRaw sameHeads
  have messageRaw : call.grpcMessageRaw = other.grpcMessageRaw :=
    congrArg Heads.grpcMessageRaw sameHeads
  simp only [finalizeLocked, sameBody.scanner, statusRaw]
  split
  · exact withStatus _ _
  · cases other.grpcStatusRaw with
    | none =>
        simp only [finalizeWithoutStatus, saw, httpStatus, contentType]
        split_ifs <;> exact withStatus _ _
    | some raw =>
        simp only [finalizeGrpcStatus, messageRaw]
        cases parseGrpcStatus raw with
        | none => exact withStatus _ _
        | some code =>
            simp only
            split
            · exact withStatus _ _
            · exact finalizeOk_result_congr (withStatus _ _) ⟨sameBody.scanner,
                sameBody.firstResponse, sameBody.responseCount, sameBody.response⟩

end Verdict

end CallState

/-- A Trailers-Only response is worth its headers and its trailers sent apart: the
pseudo-headers and the content type as response headers, the rest as trailers. -/
theorem trailersOnly_result (call : CallState) (headers : HeaderList)
    (http2ErrorCode : Nat) :
    ((call.onResponseHeaders headers true).onClose http2ErrorCode).result =
      (((call.onResponseHeaders (headers.filter isLeading) false).onTrailers
        (headers.filter fun header => !isLeading header)).onClose http2ErrorCode).result := by
  by_cases closed : call.state = .closed
  · simp [CallState.onResponseHeaders, CallState.onTrailers, closed]
  · change ((call.receiveAll [.responseHeaders headers true]).onClose http2ErrorCode).result =
      ((call.receiveAll [.responseHeaders (headers.filter isLeading) false,
        .trailers (headers.filter fun header => !isLeading header)]).onClose
          http2ErrorCode).result
    rw [CallState.onClose_result (CallState.receiveAll_notClosed closed _),
      CallState.onClose_result (CallState.receiveAll_notClosed closed _)]
    refine CallState.finalizeLocked_result_congr ?_ ?_ http2ErrorCode
    · rw [CallState.heads_receiveAll closed, CallState.heads_receiveAll closed]
      exact Heads.addResponseHeaders_trailersOnly call.heads headers
    · -- neither has DATA, so both leave the message side as it was
      have together := CallState.receiveAll_sameBody CallState.SameBody.rfl closed closed
        [.responseHeaders headers true]
      have apart := CallState.receiveAll_sameBody CallState.SameBody.rfl closed closed
        [.responseHeaders (headers.filter isLeading) false,
          .trailers (headers.filter fun header => !isLeading header)]
      exact together.trans apart.symm

end Egrpc
