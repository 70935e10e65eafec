import Egrpc.CallStateMetadata
import Egrpc.ChannelCallers
import Egrpc.ClientContext
import Egrpc.CustomChannel
import Egrpc.ResponseMetadata

/-!
# A unary call from message to message

A generated stub calls `BlockingUnaryCall`: the request message is serialized, the
channel makes the call, the metadata of the response is deposited in the context, and
the response is parsed.  Between the two halves the thread is in `UnaryCall`, among
other threads that use the same channel.  A caller who is told that all is well holds
the message that the verified server sent on the stream of this very request.
-/

namespace Egrpc

/-! ## Serialization -/

/-- What protobuf does with the messages of a type. -/
structure SerializationTraits (Message : Type) where
  serializeToString : Message → Option Bytes
  parseFromString : Bytes → Option Message

namespace SerializationTraits

variable {Message : Type}

def serialize (traits : SerializationTraits Message) (msg : Message) :
    Except Status Bytes :=
  match traits.serializeToString msg with
  | none =>
      .error
        { code := .internal
          message := Bytes.ofString "failed to serialize request message" }
  | some bytes => .ok bytes

def deserialize (traits : SerializationTraits Message) (bytes : Bytes) :
    Except Status Message :=
  match traits.parseFromString bytes with
  | none =>
      .error
        { code := .internal
          message := Bytes.ofString "failed to parse response message" }
  | some msg => .ok msg

end SerializationTraits

/-! ## The call -/

/-- The receive side of a context. -/
structure ReceivedMetadata where
  initial : Deposited := {}
  trailing : Deposited := {}

namespace Channel

/-- `BlockingUnaryCallRaw` up to the call of `UnaryCall`.  A channel of another making is
no channel here. -/
def beginRaw (channel : Option Channel) (now : Int) (method : Bytes)
    (context : ClientContext) (request : Bytes) : Except Status UnaryCallArguments :=
  match channel with
  | none =>
      .error
        { code := .internal
          message := Bytes.ofString
            "channel was not created by egrpc's grpc::CreateChannel" }
  | some (.lame status) => .error status
  | some (.fromImpl _) =>
      (blockingUnaryCallShim none now method context request).mapError
        fun status => { code := status.1, message := status.2 }

def errorDetails (received : ReceivedMetadata) : Bytes :=
  match received.trailing.storage.find?
      fun kv => kv.1 = Bytes.ofString "grpc-status-details-bin" with
  | none => []
  | some kv => kv.2

/-- `BlockingUnaryCallShim` from the return of `UnaryCall` on. -/
def finishRaw (result : CallState.Result) (received : ReceivedMetadata) :
    Except Status Bytes × ReceivedMetadata :=
  let received : ReceivedMetadata :=
    { initial := depositMetadata result.initialMetadata received.initial
      trailing := depositMetadata result.trailingMetadata received.trailing }
  if result.code = .ok then (.ok result.response, received)
  else
    (.error
      { code := result.code
        message := result.message
        details := errorDetails received }, received)

end Channel

section Call

variable {Input Output : Type}

/-- `BlockingUnaryCall` up to the call of `UnaryCall`. -/
def beginUnaryCall (input : SerializationTraits Input) (channel : Option Channel)
    (now : Int) (method : Bytes) (context : ClientContext) (request : Input) :
    Except Status UnaryCallArguments :=
  (input.serialize request).bind (Channel.beginRaw channel now method context)

/-- `BlockingUnaryCall` from the return of `UnaryCall` on. -/
def finishUnaryCall (output : SerializationTraits Output) (result : CallState.Result)
    (received : ReceivedMetadata) : Except Status Output × ReceivedMetadata :=
  let finished := Channel.finishRaw result received
  (finished.1.bind output.deserialize, finished.2)

end Call

/-! ## The exchange -/

/-- A handshake that negotiated `h2` and checked the peer's certificate for a host. -/
def TlsCall.Verifies (platform : Platform) (host : Bytes) (call : TlsCall) : Prop :=
  ∃ ssl : SslConnection, call = .sslConnect ssl (.done (Bytes.ofString "h2")) ∧
    ssl.context.verifyPeer = true ∧
    if platform.isIpLiteral host then ssl.verifyIp = some host
    else ssl.verifyHost = some host

/-- What passed on the stream of a call: the headers and the framed request that the
arguments of `UnaryCall` ask for, the events that the peer's frames made before the stream
was closed, and in them one intact message. -/
def World.Exchanged (config : ChannelConfig) (record : Transport.Record) (call : Nat)
    (arguments : UnaryCallArguments) (response : Bytes) (told : List StreamEvent)
    (w : World) : Prop :=
  ∃ reply, record.replies call = some reply ∧
    reply.body = appendGrpcFramePrefix arguments.request.length [] ++ arguments.request ∧
    .submitRequest (buildRequestHeaders config.authority arguments.methodPath
      arguments.timeout arguments.metadata config.options.userAgentPrefix)
        (appendGrpcFramePrefix arguments.request.length [] ++ arguments.request) ∈
      w.ng.calls ∧
    reply.streamId ∈ w.ng.issued ∧
    (∀ event ∈ reply.callbacks, event.streamId? = some reply.streamId) ∧
    (∃ errorCode, told.map .stream ++ [.close errorCode] <+: reply.events call) ∧
    IntactMessage config.options.maxReceiveMessageSize reply.received response

/-- The maps of a context enumerate metadata, decoded. -/
def Deposited.Shows (metadata : HeaderList) (deposited : Deposited) : Prop :=
  Multimap.Enumerates (metadata.map fun kv => (kv.1, exposedValue kv)) deposited.view

section Outcome

variable {Input Output : Type} {input : SerializationTraits Input}
  {output : SerializationTraits Output} {config : ChannelConfig} {now : Int}
  {method : Bytes} {context : ClientContext} {request : Input}
  {arguments : UnaryCallArguments} {result : CallState.Result}
  {received received' : ReceivedMetadata} {message : Output}

/-- The arguments of `UnaryCall` say what the message and the context say. -/
structure UnaryCallArguments.AskFor (input : SerializationTraits Input) (now : Int)
    (method : Bytes) (context : ClientContext) (request : Input)
    (arguments : UnaryCallArguments) : Prop where
  request : input.serializeToString request = some arguments.request
  methodPath : arguments.methodPath = method
  metadata : arguments.metadata = context.sendInitialMetadata
  timeout : arguments.timeout = context.deadline.map (· - now)

theorem beginUnaryCall_ok
    (begins : beginUnaryCall input (some (.fromImpl config)) now method context request =
      .ok arguments) : arguments.AskFor input now method context request := by
  unfold beginUnaryCall SerializationTraits.serialize at begins
  split at begins
  · cases begins
  · rename_i bytes serialized
    simp only [Except.bind, Channel.beginRaw, blockingUnaryCallShim] at begins
    split at begins
    · rename_i noDeadline
      cases begins
      exact ⟨serialized, rfl, rfl, by rw [noDeadline]; rfl⟩
    · rename_i deadline isDeadline
      split_ifs at begins with expired
      · cases begins
      · cases begins
        exact ⟨serialized, rfl, rfl, by rw [isDeadline]; rfl⟩

/-- A caller gets a message only for a result that is OK, and the metadata of the result
with it. -/
theorem finishUnaryCall_ok
    (finishes : finishUnaryCall output result received = (.ok message, received')) :
    result.code = .ok ∧ output.parseFromString result.response = some message ∧
      received'.initial.Shows result.initialMetadata ∧
      received'.trailing.Shows result.trailingMetadata := by
  have shows (metadata : HeaderList) (deposited : Deposited) :
      (depositMetadata metadata deposited).Shows metadata := by
    obtain ⟨storage, view⟩ := holds_depositMetadata metadata deposited
    rw [Deposited.Shows, view]
    exact storage
  unfold finishUnaryCall Channel.finishRaw at finishes
  simp only [Prod.mk.injEq] at finishes
  obtain ⟨parsed, rfl⟩ := finishes
  split_ifs at parsed ⊢ with ok
  · refine ⟨ok, ?_, shows _ received.initial, shows _ received.trailing⟩
    simp only [Except.bind, SerializationTraits.deserialize] at parsed
    split at parsed
    · cases parsed
    · rename_i isMessage
      cases parsed
      exact isMessage
  · cases parsed

end Outcome

/-- The metadata of a result is that of the events before the closing. -/
theorem CallState.onClose_metadata (maxReceiveMessageSize : Nat) (told : List StreamEvent)
    (errorCode : Nat) :
    let result :=
      (((CallState.new maxReceiveMessageSize).receiveAll told).onClose errorCode).result
    result.initialMetadata = told.flatMap StreamEvent.addedInitial ∧
      result.trailingMetadata = told.flatMap StreamEvent.trailingMetadata := by
  intro result
  have fresh : (CallState.new maxReceiveMessageSize).state ≠ .closed := by
    simp [CallState.new]
  have closing : (CallEvent.close errorCode).Closing := trivial
  obtain ⟨_, initial, trailing⟩ := CallState.handle_closing_metadata
    (CallState.receiveAll_notClosed fresh told) closing
  obtain ⟨initialEq, trailingEq⟩ := Heads.metadata_foldl told
    (CallState.new maxReceiveMessageSize).heads
  rw [← CallState.heads_receiveAll fresh, ← initial] at initialEq
  rw [← CallState.heads_receiveAll fresh, ← trailing] at trailingEq
  exact ⟨initialEq, trailingEq⟩

/-- Verification is on unless a test turned it off. -/
theorem TlsCall.IsHandshake.verifies {platform : Platform} {config : ChannelConfig}
    {handshake : TlsCall} (isHandshake : handshake.IsHandshake platform config)
    (verified : config.tls.insecureSkipVerifyForTestingOnly = false) :
    handshake.Verifies platform config.host := by
  obtain ⟨ssl, rfl, host, tls, target, checks⟩ := isHandshake
  cases target
  obtain ⟨verifyPeer, verifyHost⟩ := checks verified
  exact ⟨ssl, rfl, verifyPeer, verifyHost⟩

namespace ChannelProcess

variable {platform : Platform} {config : ChannelConfig} {p p₀ : ChannelProcess}
  {Input Output : Type} {input : SerializationTraits Input}
  {output : SerializationTraits Output}

/-- A channel is created for a target, and any
number of threads use it and shut it down, in any order.  If a thread's
`BlockingUnaryCall` returns a message, then its request was submitted on a stream of its
own, as it was serialized, with its length in front and with the headers that the context
asks for, behind a handshake that checked the certificate of the host that the target
names; the peer answered on that stream with one intact message, which parses to the one
returned; and the context shows the metadata of that answer. -/
theorem unary_call_from_message_to_message {target : Bytes}
    {creds : Option ChannelCredentials} {calls : List ChannelArguments.Call}
    (created : createCustomChannel target creds (.ofCalls calls) = .fromImpl config)
    (start : p₀.Started config) (quiet : p₀.world.tls.calls = [])
    (later : Later platform config p₀ p) {call : Nat} {now : Int} {method : Bytes}
    {context : ClientContext} {request : Input} {arguments : UnaryCallArguments}
    (begins : beginUnaryCall input (some (.fromImpl config)) now method context request =
      .ok arguments)
    (called : p₀.unaryCalls call = .called arguments) {result : CallState.Result}
    (returned : p.unaryCalls call = .returned result ∨ p.unaryCalls call = .rejected result)
    {received received' : ReceivedMetadata} {message : Output}
    (finishes : finishUnaryCall output result received = (.ok message, received')) :
    TargetForm target config.host config.port ∧
    (∃ handshake ∈ p.world.tls.calls, handshake.Verifies platform config.host) ∧
    arguments.AskFor input now method context request ∧
    ∃ response told record,
      Transport.Reachable platform config p₀.world.tls p₀.world.ng
        (p.world.transport p.world.state.phase record) ∧
      p.world.Exchanged config record call arguments response told ∧
      output.parseFromString response = some message ∧
      received'.initial.Shows (told.flatMap StreamEvent.addedInitial) ∧
      received'.trailing.Shows (told.flatMap StreamEvent.trailingMetadata) := by
  have serves := Channel.serves_of_created created
  obtain ⟨ok, parsed, initial, trailing⟩ := finishUnaryCall_ok finishes
  have served : Served platform config p₀ p := Later.served start later
  have inHand := served.threads call
  rcases returned with returned | rejected
  · rw [returned] at inHand
    obtain ⟨posted, tracked, _, requested⟩ := served.tracked
    obtain ⟨record, reached, _, _, results⟩ := tracked.results quiet
    rcases results call result inHand with ⟨unavailable, _⟩ | ⟨pc, member, rfl, answers⟩
    · cases unavailable.symm.trans ok
    · obtain ⟨arguments', called', posts⟩ := requested pc member
      cases called.symm.trans called'
      obtain ⟨reply, isReply, body, asked, issued, carried, ⟨handshake, made, isHandshake⟩,
        told, errorCode, events, isResult, intact⟩ := answers
      obtain ⟨isInitial, isTrailing⟩ := CallState.onClose_metadata
        config.options.maxReceiveMessageSize told errorCode
      rw [← isResult] at isInitial isTrailing
      have isCall := UnaryCallArguments.eq_of_check posts
      rw [isCall] at body asked
      exact ⟨serves.target, ⟨handshake, made, isHandshake.verifies serves.verified⟩,
        beginUnaryCall_ok begins, result.response, told, record, reached,
        ⟨reply, isReply, body, asked, issued, carried, ⟨errorCode, events⟩, (intact ok).1⟩,
        parsed, isInitial ▸ initial, isTrailing ▸ trailing⟩
  · rw [rejected] at inHand
    obtain ⟨arguments', _, check⟩ := inHand
    cases (UnaryCallArguments.above_of_check check).2.1.symm.trans ok

/-- The first of two callers asks with the byte 42 and gets the byte that the peer sent
it. -/
theorem sampleReturned_message :
    let bytes : SerializationTraits Bytes := ⟨some, some⟩
    ∃ result received' told record,
      sampleReturned.unaryCalls 0 = .returned result ∧
      finishUnaryCall bytes result {} = (.ok [7], received') ∧
      sampleReturned.world.Exchanged limitedConfig record 0 sampleArguments [7] told := by
  intro bytes
  have created : createCustomChannel (Bytes.ofString "host") (some (sslCredentials {}))
      (.ofCalls [.setInt ChannelArguments.maxSendMessageLength 4]) =
        .fromImpl limitedConfig := by rfl
  have begins : beginUnaryCall bytes (some (.fromImpl limitedConfig)) 0
      (Bytes.ofString "/pkg.Service/Method")
      (({} : ClientContext).addMetadata (Bytes.ofString "key") (Bytes.ofString "value"))
      [42] = .ok sampleArguments := rfl
  obtain ⟨_, _, _, response, told, record, _, exchanged, parsed, _⟩ :=
    unary_call_from_message_to_message created sampleCallers_started rfl
      sampleReturned_later begins
      (rfl : sampleCallers.unaryCalls 0 = .called sampleArguments) (.inl rfl)
      (rfl : finishUnaryCall bytes _ {} = (.ok [7], _))
  cases parsed
  exact ⟨_, _, told, record, rfl, rfl, exchanged⟩

end ChannelProcess

end Egrpc
